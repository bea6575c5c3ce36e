/-!
# Punycode

The decoding of a label that is written in letters, digits and hyphens to the code points
it stands for. The basic code points come first, up to the last hyphen; the others are
inserted one by one, at places and with values that are told by numbers of variable length
in base 36.
-/

namespace LogCourier.Dns.Punycode

/-- The value of a digit in base 36. -/
def digit? (c : Char) : Option Nat :=
  let n := c.toNat
  if 97 ≤ n ∧ n ≤ 122 then some (n - 97)
  else if 48 ≤ n ∧ n ≤ 57 then some (n - 48 + 26)
  else none

/-- Divide by 35 until at most 455 is left, and count 36 for each division. -/
def scaleDown (delta count : Nat) : Nat × Nat :=
  if 455 < delta then scaleDown (delta / 35) (count + 36) else (delta, count)
termination_by delta

/-- The bias after an insertion with the given number, which gave a text of `length` code
points; `first` tells that it was the first one. -/
def adapt (delta length : Nat) (first : Bool) : Nat :=
  let delta := if first then delta / 700 else delta / 2
  let (delta, count) := scaleDown (delta + delta / length) 0
  count + 36 * delta / (delta + 38)

/-- The decoding so far: the code points, the next code point and place to insert at, the
bias, and the number being read with the weight and index of its next digit. -/
structure State where
  output : List Nat
  point : Nat
  place : Nat
  bias : Nat
  number : Nat
  weight : Nat
  index : Nat

/-- The least digit that goes on with a number, for the digit with the given index. -/
def threshold (index bias : Nat) : Nat :=
  if index ≤ bias + 1 then 1 else if bias + 26 ≤ index then 26 else index - bias

/-- Insert a code point as the completed number tells. -/
def State.insert (s : State) : Option State :=
  let place := s.place + s.number
  let length := s.output.length + 1
  let point := s.point + place / length
  if UInt32.size ≤ place ∨ ¬ point.isValidChar then none
  else
    let at_ := place % length
    some {
      output := s.output.take at_ ++ point :: s.output.drop at_
      point
      place := at_ + 1
      bias := adapt s.number length (s.place = 0 ∧ s.point = 128)
      number := 0
      weight := 1
      index := 36 }

/-- Read a digit. -/
def State.step (s : State) (c : Char) : Option State := do
  let d ← digit? c
  let t := threshold s.index s.bias
  let s := { s with number := s.number + d * s.weight }
  if UInt32.size ≤ s.number then none
  else if d < t then s.insert
  else some { s with weight := s.weight * (36 - t), index := s.index + 36 }

/-- Split a text at its last hyphen. -/
def splitLast (cs : List Char) : List Char × List Char :=
  let tail := (cs.reverse.takeWhile (· ≠ '-')).reverse
  let front := cs.take (cs.length - tail.length)
  if front.length ≤ 1 then ([], cs) else (front.dropLast, tail)

/-- The code points that a text in letters, digits and hyphens stands for. -/
def decode? (cs : List Char) : Option (List Nat) := do
  let (basic, digits) := splitLast cs
  let s ← digits.foldlM State.step ⟨basic.map Char.toNat, 128, 0, 72, 0, 1, 36⟩
  if s.index = 36 then some s.output else none

end LogCourier.Dns.Punycode
