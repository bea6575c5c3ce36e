import LogCourier.Calendar
import LogCourier.Number
import LogCourier.Toml.Token

/-!
# Values of a TOML document

A value is a text, a number, a truth value, a date or time, an array or a table. A table
remembers how it came to be, since that decides what may still be added to it, and a value
inside another one has its place in the document. `scalar` reads a value that is written as
a plain word.
-/

namespace LogCourier.Toml

/-- How a table came to be. -/
inductive TableKind
  /-- It has a header of its own. -/
  | headed
  /-- It is named on the way to a table with a header. -/
  | implied
  /-- It is named by the front part of a dotted key. -/
  | dotted
  /-- It is written in braces, and complete. -/
  | inline
  deriving DecidableEq, Repr

/-- A value of a document. -/
inductive Value
  | text (content : String)
  | integer (value : Int)
  /-- A float, with the decimal text of its value. -/
  | float (text : String)
  | boolean (value : Bool)
  | moment
  | array (items : List (Span × Value))
  /-- An array of tables with a header each, last one first. -/
  | tables (items : List (Span × List (String × Span × Value)))
  | table (kind : TableKind) (entries : List (String × Span × Value))
  deriving Inhabited

/-- The entries of a table, in order. -/
abbrev Entries := List (String × Span × Value)

/-- Read digits of a base, with single underscores between them. -/
def digitsWithin (base : Nat) (cs : List Char) : Option (List Nat) :=
  let rec go : (mayBreak : Bool) → List Char → Option (List Nat)
    | mayBreak, [] => if mayBreak then some [] else none
    | mayBreak, c :: cs =>
      if c = '_' then if mayBreak then go false cs else none
      else match Scanner.hexDigit? c with
        | some d => if d < base then (go true cs).map (d :: ·) else none
        | none => none
  go false cs

/-- The number of some digits. -/
def ofDigits (base : Nat) (ds : List Nat) : Nat :=
  ds.foldl (fun n d => base * n + d) 0

/-- Read a decimal number without a leading zero. -/
def decimal? (cs : List Char) : Option Nat := do
  let ds ← digitsWithin 10 cs
  if ds.head? = some 0 ∧ 1 < ds.length then none else some (ofDigits 10 ds)

/-- Take a sign off a word. -/
def unsigned : List Char → Bool × List Char
  | '-' :: cs => (true, cs)
  | '+' :: cs => (false, cs)
  | cs => (false, cs)

/-- Read an integer. -/
def integer? (cs : List Char) : Option Int :=
  match cs with
  | '0' :: 'x' :: ds => (digitsWithin 16 ds).map fun ds => (ofDigits 16 ds : Int)
  | '0' :: 'o' :: ds => (digitsWithin 8 ds).map fun ds => (ofDigits 8 ds : Int)
  | '0' :: 'b' :: ds => (digitsWithin 2 ds).map fun ds => (ofDigits 2 ds : Int)
  | _ =>
    let (negative, ds) := unsigned cs
    (decimal? ds).map fun n => if negative then -(n : Int) else n

/-- Split a list at the first element that satisfies `p`, which is dropped. -/
def splitFirst (p : Char → Bool) (cs : List Char) : List Char × Option (List Char) :=
  match cs.dropWhile (! p ·) with
  | [] => (cs, none)
  | _ :: rest => (cs.takeWhile (! p ·), some rest)

/-- Whether `digits · 10 ^ scale` is below the first number that is too large for a
double. -/
def fitsDouble (digits : Nat) (scale : Int) : Bool :=
  let bound := Nat.pow 2 1024 - Nat.pow 2 970
  if digits = 0 ∨ scale < -100000 then true
  else if 400 < scale then false
  else if scale < 0 then digits < bound * Nat.pow 10 scale.natAbs
  else digits * Nat.pow 10 scale.natAbs < bound

/-- The sign, the digits and the scale of a word that is a decimal number with a fraction,
an exponent or both. -/
def decimalParts? (cs : List Char) : Option (Bool × Nat × Int) := do
  let (negative, cs) := unsigned cs
  let (front, exponent) := splitFirst (fun c => c = 'e' ∨ c = 'E') cs
  let (whole, fraction) := splitFirst (· = '.') front
  guard (fraction.isSome ∨ exponent.isSome)
  let _ ← decimal? whole
  let ds ← digitsWithin 10 whole
  let fs ← match fraction with
    | none => some []
    | some f => digitsWithin 10 f
  let scale : Int ← match exponent with
    | none => some 0
    | some e => do
      let (negative, e) := unsigned e
      let n := ofDigits 10 (← digitsWithin 10 e)
      pure (if negative then -(n : Int) else n)
  return (negative, ofDigits 10 (ds ++ fs), scale - fs.length)

/-- The double nearest to `digits · 10 ^ scale`; what is below every double is zero. -/
def doubleOf (digits : Nat) (scale : Int) : Double :=
  if digits = 0 ∨ scale + Nat.log2 digits < -400 then .ofNat 0
  else if scale < 0 then .ratio digits (Nat.pow 10 scale.natAbs)
  else .ratio (digits * Nat.pow 10 scale.natAbs) 1

/-- The text of the value of a word that is a float: a decimal number or one of the names of
infinity and of what is no number. -/
def float? (cs : List Char) : Option String :=
  let (negative, name) := unsigned cs
  let sign := if negative then "-" else ""
  if name = ['i', 'n', 'f'] then some (sign ++ "inf")
  else if name = ['n', 'a', 'n'] then some "NaN"
  else do
    let (_, digits, scale) ← decimalParts? cs
    guard (fitsDouble digits scale)
    let text := (doubleOf digits scale).plain
    return sign ++ text ++ (if text.contains '.' then "" else ".0")

/-- Read a number of exactly `width` digits in front of a word. -/
def fixed (width : Nat) (cs : List Char) : Option (Nat × List Char) :=
  let ds := cs.take width
  if ds.length = width ∧ ds.all Char.isDigit then
    some (Nat.ofDigitChars 10 ds 0, cs.drop width)
  else none

/-- Read one of the given characters in front of a word. -/
def expect (p : Char → Bool) : List Char → Option (List Char)
  | [] => none
  | c :: cs => if p c then some cs else none

/-- Read a date in front of a word. -/
def date (cs : List Char) : Option (List Char) := do
  let (y, cs) ← fixed 4 cs
  let (m, cs) ← fixed 2 (← expect (· = '-') cs)
  let (d, cs) ← fixed 2 (← expect (· = '-') cs)
  guard (1 ≤ m ∧ m ≤ 12 ∧ 1 ≤ d ∧ d ≤ Calendar.daysInMonth y m)
  return cs

/-- Read the seconds of a time in front of a word, if they are there, with a fraction. -/
def seconds (cs : List Char) : Option (List Char) :=
  match cs with
  | ':' :: cs => do
    let (s, cs) ← fixed 2 cs
    guard (s ≤ 60)
    match cs with
    | '.' :: fraction =>
      let ds := fraction.takeWhile Char.isDigit
      if ds.isEmpty then none else some (fraction.drop ds.length)
    | _ => some cs
  | _ => some cs

/-- Read a clock time in front of a word. -/
def time (cs : List Char) : Option (List Char) := do
  let (h, cs) ← fixed 2 cs
  let (m, cs) ← fixed 2 (← expect (· = ':') cs)
  guard (h ≤ 23 ∧ m ≤ 59)
  seconds cs

/-- Read an offset from UTC in front of a word, if it is there. -/
def offset (cs : List Char) : Option (List Char) :=
  match cs with
  | 'Z' :: cs | 'z' :: cs => some cs
  | '+' :: cs | '-' :: cs => do
    let (h, cs) ← fixed 2 cs
    let (m, cs) ← fixed 2 (← expect (· = ':') cs)
    guard (h ≤ 23 ∧ m ≤ 59)
    return cs
  | _ => some cs

/-- Whether a word is a date, a clock time or both. -/
def isMoment (cs : List Char) : Bool :=
  let dated := do
    let cs ← date cs
    if cs.isEmpty then return cs
    offset (← time (← expect (fun c => c = 'T' ∨ c = 't' ∨ c = ' ') cs))
  dated = some [] ∨ time cs = some []

/-- The index of the first underscore that does not stand between two digits. -/
def loneUnderscore? (cs : List Char) : Option Nat :=
  let beside := (' ' :: cs).zip (cs.zip (cs.drop 1 ++ [' ']))
  beside.findIdx? fun (left, c, right) =>
    c = '_' ∧ ¬ ((Scanner.hexDigit? left).isSome ∧ (Scanner.hexDigit? right).isSome)

/-- Why a word is no value. -/
def wordFault (p : Span) (cs : List Char) : Fault :=
  let digits := (unsigned cs).2
  match cs with
  | 't' :: _ | 'T' :: _ => ⟨p, .invalidBoolean "true"⟩
  | 'f' :: _ | 'F' :: _ => ⟨p, .invalidBoolean "false"⟩
  | _ =>
    let first := digits.headD ' '
    if ¬ digits.any Char.isDigit ∨ ¬ (first = '_' ∨ first.isDigit) then ⟨p, .unquotedText⟩
    else match loneUnderscore? cs with
      | some i => ⟨⟨p.start + i, p.start + i + 1⟩, .misplacedUnderscore⟩
      | none =>
        if (date cs).isSome ∨ (time cs).isSome then ⟨p, .invalidMoment⟩
        else if first = '0' ∧ (digits[1]?).any Char.isDigit then ⟨p, .leadingZero⟩
        else if digits.contains '.' then ⟨p, .invalidFloat⟩
        else ⟨p, .unquotedText⟩

/-- Read the value of a word at a place. -/
def scalar (p : Span) (cs : List Char) : Except Fault Value :=
  if cs = ['t', 'r', 'u', 'e'] then .ok (.boolean true)
  else if cs = ['f', 'a', 'l', 's', 'e'] then .ok (.boolean false)
  else match integer? cs with
    | some n => .ok (.integer n)
    | none =>
      match float? cs with
      | some text => .ok (.float text)
      | none => if isMoment cs then .ok .moment else .error (wordFault p cs)

end LogCourier.Toml
