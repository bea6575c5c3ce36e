import LogCourier.Text.CaseTable

/-!
# Case mapping

The full lower-case and upper-case forms of a text. Each character is mapped on its own,
except that a capital sigma at the end of a word becomes the final small sigma.
-/

namespace LogCourier.Text

/-- Whether a number lies in one of the ranges. -/
def inRanges (ranges : List (Nat × Nat)) (n : Nat) : Bool :=
  ranges.any fun r => r.1 ≤ n && n ≤ r.2

/-- The image of a code point under the run that holds it. -/
def CaseRun.map? (n : Nat) (r : CaseRun) : Option Nat :=
  if r.first ≤ n ∧ n ≤ r.last ∧ (n - r.first) % r.step = 0 then some (n + r.offset).toNat
  else none

/-- The lower-case form of a character, out of context. -/
def lowerChar (c : Char) : List Char :=
  let n := c.toNat
  if n < 0x80 then [c.toLower]
  else if n = 0x130 then ['i', Char.ofNat 0x307]
  else match lowerRuns.findSome? (CaseRun.map? n) with
    | some m => [Char.ofNat m]
    | none => [c]

/-- The upper-case form of a character. -/
def upperChar (c : Char) : List Char :=
  let n := c.toNat
  if n < 0x80 then [c.toUpper]
  else match upperExpansions.lookup n with
    | some ms => ms.map Char.ofNat
    | none => match upperRuns.findSome? (CaseRun.map? n) with
      | some m => [Char.ofNat m]
      | none => [c]

/-- Whether the first character that is not Case_Ignorable is Cased. -/
def meetsCased (cs : List Char) : Bool :=
  match cs.dropWhile fun c => inRanges caseIgnorableRanges c.toNat with
  | [] => false
  | c :: _ => inRanges casedRanges c.toNat

/-- The lower-case form of a text whose earlier characters, last first, are `before`. -/
def lowerFrom : (before : List Char) → List Char → List Char
  | _, [] => []
  | before, c :: cs =>
    let image :=
      if c = 'Σ' then [if meetsCased before && !meetsCased cs then 'ς' else 'σ']
      else lowerChar c
    image ++ lowerFrom (c :: before) cs

/-- The lower-case form of a text. -/
def lower (s : String) : String :=
  String.ofList (lowerFrom [] s.toList)

/-- The upper-case form of a text. -/
def upper (s : String) : String :=
  String.ofList (s.toList.flatMap upperChar)

/-- The text with its ASCII capitals made small. -/
def lowerAscii (s : String) : String :=
  String.ofList (s.toList.map Char.toLower)

end LogCourier.Text
