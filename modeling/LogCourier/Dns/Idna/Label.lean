import LogCourier.Dns.Idna.DirectionTable
import LogCourier.Dns.Idna.JoiningTable
import LogCourier.Dns.Idna.MarkTable
import LogCourier.Dns.Idna.Punycode
import LogCourier.Dns.Idna.ValidTable

/-!
# Internationalised labels

A label of a domain name that begins with `xn--` stands for other characters. They are
accepted if all of them may stand in a label, if they are in composed form, and if the
rules for joiners and for characters written from right to left are kept.
-/

namespace LogCourier.Dns.Idna

/-- Whether a code point lies in one of the ranges. -/
def within (ranges : List (Nat × Nat)) (n : Nat) : Bool :=
  ranges.any fun r => r.1 ≤ n && n ≤ r.2

/-- The combining class of a code point. -/
def combiningClass (n : Nat) : Nat :=
  match combiningClasses.find? fun r => r.1 ≤ n && n ≤ r.2.1 with
  | some r => r.2.2
  | none => 0

/-- Whether two code points have a precomposed form. -/
def compose (first second : Nat) : Bool :=
  let syllable := 0xac00 ≤ first ∧ first ≤ 0xd7a3
  (((compositions.lookup second).getD []).contains first)
    || (0x1100 ≤ first ∧ first ≤ 0x1112 ∧ 0x1161 ≤ second ∧ second ≤ 0x1175)
    || (syllable ∧ (first - 0xac00) % 28 = 0 ∧ 0x11a8 ≤ second ∧ second ≤ 0x11c2)

/-- Whether code points are in composed form, where `starter` is the last one before them
with class 0 and `last` is the class of the one before them. -/
def isComposedFrom (starter : Option Nat) (last : Nat) : List Nat → Bool
  | [] => true
  | n :: ns =>
    let c := combiningClass n
    let ordered := c = 0 || last ≤ c
    let free := last = 0 || (c ≠ 0 && last < c)
    ordered && !(free && starter.any (compose · n))
      && isComposedFrom (if c = 0 then some n else starter) c ns

/-- The joining of the nearest letter that joining does not look through. -/
def joinsWith (ranges : List (Nat × Nat)) (ns : List Nat) : Bool :=
  match ns.dropWhile (within transparent) with
  | [] => false
  | n :: _ => within ranges n

/-- Whether the joiners among code points have a right to stand where they do; `before`
are the code points before, last first. -/
def joinersFit (before : List Nat) : List Nat → Bool
  | [] => true
  | n :: ns =>
    let afterVirama := before.head?.any (combiningClass · = 9)
    let fits :=
      if n = 0x200d then afterVirama
      else if n = 0x200c then
        afterVirama || (joinsWith joinsBefore before && joinsWith joinsAfter ns)
      else true
    fits && joinersFit (n :: before) ns

/-- The direction class of a code point. -/
def direction (n : Nat) : Direction :=
  match directionRanges.find? fun r => r.1 ≤ n && n ≤ r.2.1 with
  | some r => r.2.2
  | none => .l

/-- Whether the directions of the characters of a label fit together. -/
def directionsFit (ds : List Direction) : Bool :=
  let has := fun d => ds.contains d
  let ending := (ds.reverse.dropWhile (· = .nsm)).head?
  if ¬ (has .r ∨ has .al ∨ has .an) then true
  else match ds.head? with
    | some .l => !(has .r || has .al || has .an) && (ending = some .l || ending = some .en)
    | some .r | some .al =>
      !has .l && !(has .en && has .an)
        && ending.any fun d => d = .r ∨ d = .al ∨ d = .en ∨ d = .an
    | _ => false

/-- The marks in front of a label that stands for other characters. -/
def mark : List Char := ['x', 'n', '-', '-']

/-- Whether code points may stand for a label. -/
def isLabel (ns : List Nat) : Bool :=
  ns.any (0x80 ≤ ·)
    && ns.all (within validRanges)
    && !(ns.head?.any (within markRanges))
    && !(mark.map Char.toNat).isPrefixOf ns
    && isComposedFrom none 0 ns
    && joinersFit [] ns
    && directionsFit (ns.map direction)

/-- The characters that a label stands for. -/
def decode? (label : List Char) : Option (List Char) := do
  let lowered := label.map Char.toLower
  guard (mark.isPrefixOf label ∧ label.all (·.toNat < 0x80))
  let ns ← Punycode.decode? (lowered.drop 4)
  guard (isLabel ns)
  return ns.map Char.ofNat

end LogCourier.Dns.Idna
