/-!
# Double-precision numbers

A non-negative double as an exact dyadic number `mantissa · 2 ^ exponent`. `Double.ratio`
rounds a quotient of natural numbers to the nearest double, ties to the even mantissa, and
`shortest` finds the fewest decimal digits that read back as the same double; `plain`,
`general` and `compact` write those digits in the layouts that occur in metrics, in log fields
and in JSON.
-/

namespace LogCourier

/-- A double that is not negative: `mantissa · 2 ^ exponent`. -/
structure Double where
  mantissa : Nat
  exponent : Int
  deriving DecidableEq, Repr

namespace Double

/-- The number of binary digits of the integral part of `num / den`, or minus the number
of binary zeros after the point if that part is zero: the `k` with
`2 ^ (k - 1) ≤ num / den < 2 ^ k`. -/
def magnitude (num den : Nat) : Int :=
  let k : Int := (Nat.log2 num : Int) - Nat.log2 den
  -- `2 ^ (k - 1) < num / den < 2 ^ (k + 1)`
  if (if k < 0 then num * Nat.pow 2 k.natAbs < den else num < den * Nat.pow 2 k.natAbs)
  then k else k + 1

/-- The quotient rounded to the nearest integer, a half to the even neighbour. -/
def roundDiv (num den : Nat) : Nat :=
  let q := num / den
  let r := num % den
  if 2 * r < den then q
  else if den < 2 * r then q + 1
  else if q % 2 = 0 then q else q + 1

/-- The double nearest to `num / den`, ties to the even mantissa. The exponent of a double is
at least -1074, so that small ones have fewer digits. -/
def ratio (num den : Nat) : Double :=
  if num = 0 ∨ den = 0 then ⟨0, 0⟩
  else
    let e := if magnitude num den < -1021 then -1074 else magnitude num den - 53
    let m :=
      if e < 0 then roundDiv (num * Nat.pow 2 e.natAbs) den
      else roundDiv num (den * Nat.pow 2 e.natAbs)
    if m = Nat.pow 2 53 then ⟨Nat.pow 2 52, e + 1⟩ else ⟨m, e⟩

/-- The double nearest to a natural number. -/
def ofNat (n : Nat) : Double :=
  ratio n 1

/-- The value as a fraction. -/
def fraction (x : Double) : Nat × Nat :=
  if x.exponent < 0 then (x.mantissa, Nat.pow 2 x.exponent.natAbs)
  else (x.mantissa * Nat.pow 2 x.exponent.natAbs, 1)

/-- The double nearest to the sum of two doubles. -/
def add (x y : Double) : Double :=
  let (a, b) := x.fraction
  let (c, d) := y.fraction
  ratio (a * d + c * b) (b * d)

/-- The double nearest to the product of two doubles. -/
def mul (x y : Double) : Double :=
  let (a, b) := x.fraction
  let (c, d) := y.fraction
  ratio (a * c) (b * d)

/-- The double nearest to the quotient of two doubles. -/
def div (x y : Double) : Double :=
  let (a, b) := x.fraction
  let (c, d) := y.fraction
  ratio (a * d) (b * c)

/-- Whether the value is not too large for a double. -/
def isFinite (x : Double) : Bool :=
  let (a, b) := x.fraction
  a < b * Nat.pow 2 1024

/-- The integral part of the value. -/
def floor (x : Double) : Nat :=
  let (a, b) := x.fraction
  a / b

/-- Whether `digits · 10 ^ scale` rounds to the given double. -/
def readsBack (x : Double) (digits : Nat) (scale : Int) : Bool :=
  (if scale < 0 then ratio digits (Nat.pow 10 scale.natAbs)
    else ratio (digits * Nat.pow 10 scale.natAbs) 1) == x

/-- Of the two multiples of `10 ^ scale` around the value, the nearer one that reads back;
the even one when both are equally near. -/
def onGrid (x : Double) (scale : Int) : Option Nat :=
  let (a, b) := x.fraction
  let (num, den) :=
    if scale < 0 then (a * Nat.pow 10 scale.natAbs, b) else (a, b * Nat.pow 10 scale.natAbs)
  let below := num / den
  let near := roundDiv num den
  let far := if near = below then below + 1 else below
  if readsBack x near scale then some near
  else if readsBack x far scale then some far
  else none

/-- Search the grids from `scale` downwards for the coarsest that holds a decimal reading
back as the value. -/
def search (x : Double) : Nat → Int → Nat × Int
  | 0, scale => ((onGrid x scale).getD 0, scale)
  | fuel + 1, scale =>
    match onGrid x scale with
    | some d => (d, scale)
    | none => search x fuel (scale - 1)

/-- The number of decimal digits of the integral part, or minus the number of zeros after
the point: the least `k` with `value < 10 ^ k`, found by walking from an upper bound. -/
def decimalMagnitude (x : Double) : Nat → Int → Int
  | 0, k => k
  | fuel + 1, k =>
    let (a, b) := x.fraction
    if (if k ≤ 0 then a * Nat.pow 10 (1 - k).natAbs < b else a < b * Nat.pow 10 (k - 1).natAbs)
    then decimalMagnitude x fuel (k - 1) else k

/-- The fewest decimal digits that read back as the value, with their scale: seventeen
digits always suffice. The search starts at the power of ten above the value, which may itself
read back. -/
def shortest (x : Double) : Nat × Int :=
  if x.mantissa = 0 then (0, 0)
  else
    let bound : Int := ((Nat.log2 x.mantissa : Int) + 1 + x.exponent) * 3 / 10 + 2
    let k := decimalMagnitude x 700 bound
    search x 18 k

/-- The decimal digits of a positional layout: `whole.fractional`, where the fraction may
be empty. -/
def positional (digits : Nat) (scale : Int) : List Char × List Char :=
  let ds := Nat.toDigits 10 digits
  if 0 ≤ scale then (if digits = 0 then ['0'] else ds ++ List.replicate scale.natAbs '0', [])
  else
    let places := scale.natAbs
    let ds := List.replicate (places + 1 - ds.length) '0' ++ ds
    (ds.take (ds.length - places), ds.drop (ds.length - places))

/-- The shortest digits in positional notation, without a fraction where there is none. -/
def plain (x : Double) : String :=
  let (d, s) := x.shortest
  let (whole, fractional) := positional d s
  String.ofList (if fractional.isEmpty then whole else whole ++ '.' :: fractional)

/-- The shortest digits in exponent notation: one digit before the point, and no point where
there is no other one. -/
def scientific (x : Double) : List Char :=
  let (d, s) := x.shortest
  let ds := Nat.toDigits 10 d
  let lead : Int := s + ds.length - 1
  let tail := ds.drop 1
  let body := ds.take 1 ++ (if tail.isEmpty then [] else '.' :: tail)
  let sign := if lead < 0 then ['-'] else []
  body ++ 'e' :: sign ++ Nat.toDigits 10 lead.natAbs

/-- The shortest digits with at least one place after the point, in exponent notation from
`10 ^ 16` on and below `10 ^ least`. -/
def layout (least : Int) (x : Double) : String :=
  let (d, s) := x.shortest
  let lead : Int := s + (Nat.toDigits 10 d).length - 1
  if d = 0 ∨ (least ≤ lead ∧ lead < 16) then
    let (whole, fractional) := positional d s
    String.ofList (whole ++ '.' :: (if fractional.isEmpty then ['0'] else fractional))
  else String.ofList x.scientific

/-- The layout of log fields. -/
def general (x : Double) : String :=
  x.layout (-4)

/-- The layout of JSON. -/
def compact (x : Double) : String :=
  x.layout (-5)

end Double

end LogCourier
