import LogCourier.Json.Printer
import Mathlib.Tactic.IntervalCases

/-!
# How documents are written

The syntax of JSON, as a relation between characters and the tree that they are a document of
(`Json.Written`). A tree has many documents: white space can stand around every value and every
key, a number has many spellings, and a character can stand in a text as it is, as a letter after
a backslash, or as one or two code units in hexadecimal digits (`Json.Piece`). What the printer
makes of a tree of strings, whole numbers, truth values and nulls is one of its documents
(`Json.Plain.written`).
-/

namespace LogCourier.Json

/-- The characters are white space. -/
def IsSpaces (cs : List Char) : Prop :=
  ∀ c ∈ cs, c = ' ' ∨ c = '\n' ∨ c = '\t' ∨ c = '\r'

/-! ### Numbers -/

/-- The characters are one or more digits. -/
def IsDigits (cs : List Char) : Prop :=
  cs ≠ [] ∧ ∀ c ∈ cs, c.isDigit = true

/-- The whole part of a number: no zero stands before other digits. -/
inductive IsWhole : List Char → Prop
  | zero : IsWhole ['0']
  | positive {c : Char} {cs : List Char} (hc : c.isDigit = true) (hzero : c ≠ '0')
      (hcs : ∀ d ∈ cs, d.isDigit = true) : IsWhole (c :: cs)

/-- What follows the whole part of a number, if anything. -/
inductive IsFraction : List Char → Prop
  | none : IsFraction []
  | some {cs : List Char} (h : IsDigits cs) : IsFraction ('.' :: cs)

/-- The exponent of a number, if there is one. -/
inductive IsExponent : List Char → Prop
  | none : IsExponent []
  | some {mark : Char} {sign cs : List Char} (hmark : mark = 'e' ∨ mark = 'E')
      (hsign : sign = [] ∨ sign = ['+'] ∨ sign = ['-']) (h : IsDigits cs) :
      IsExponent (mark :: (sign ++ cs))

/-- The characters spell a number. -/
inductive IsNumber : List Char → Prop
  | mk {sign whole fraction exponent : List Char} (hsign : sign = [] ∨ sign = ['-'])
      (hwhole : IsWhole whole) (hfraction : IsFraction fraction)
      (hexponent : IsExponent exponent) : IsNumber (sign ++ whole ++ (fraction ++ exponent))

/-- The tree of a number with the given spelling. -/
def ofSpelling (cs : List Char) : Json :=
  if cs.all Char.isDigit then .natural (Nat.ofDigitChars 10 cs 0) else .numeral cs

/-! ### Texts -/

/-- What stands at one place of a text: a character, or a surrogate. -/
inductive Piece
  | char (c : Char)
  | high (n : Nat)
  | low (n : Nat)

namespace Piece

/-- The piece of a code unit. -/
def ofUnit (n : Nat) : Piece :=
  if 0xd800 ≤ n ∧ n < 0xdc00 then high n
  else if 0xdc00 ≤ n ∧ n < 0xe000 then low n
  else char (Char.ofNat n)

/-- The text of some pieces: a high surrogate before a low one makes a character together with it,
and any other surrogate is no character. -/
def join : List Piece → Text
  | [] => []
  | char c :: ps => some c :: join ps
  | high n :: low m :: ps =>
    some (Char.ofNat (0x10000 + (n - 0xd800) * 0x400 + (m - 0xdc00))) :: join ps
  | high _ :: ps => none :: join ps
  | low _ :: ps => none :: join ps

end Piece

/-- The letter stands for the character after a backslash. -/
inductive Letter : Char → Char → Prop
  | quote : Letter '"' '"'
  | backslash : Letter '\\' '\\'
  | slash : Letter '/' '/'
  | backspace : Letter 'b' '\x08'
  | formFeed : Letter 'f' '\x0c'
  | newline : Letter 'n' '\n'
  | carriageReturn : Letter 'r' '\r'
  | tab : Letter 't' '\t'

/-- The hexadecimal digit, whose letter may be a small or a capital one, has the value. -/
inductive IsHex : Char → Nat → Prop
  | small {n : Nat} (h : n < 16) : IsHex (hexDigit n) n
  | capital {n : Nat} (h : n < 16) : IsHex (hexDigit n).toUpper n

/-- How a piece can stand in a text. -/
inductive Piece.Spelled : List Char → Piece → Prop
  | plain {c : Char} (hquote : c ≠ '"') (hslash : c ≠ '\\') (h : 0x20 ≤ c.toNat) :
      Spelled [c] (char c)
  | letter {e c : Char} (h : Letter e c) : Spelled ['\\', e] (char c)
  | code {c₁ c₂ c₃ c₄ : Char} {n₁ n₂ n₃ n₄ : Nat} (h₁ : IsHex c₁ n₁) (h₂ : IsHex c₂ n₂)
      (h₃ : IsHex c₃ n₃) (h₄ : IsHex c₄ n₄) :
      Spelled ['\\', 'u', c₁, c₂, c₃, c₄]
        (ofUnit (16 * (16 * (16 * n₁ + n₂) + n₃) + n₄))

/-- How pieces stand in a text one after another. -/
inductive Piece.AllSpelled : List Char → List Piece → Prop
  | nil : AllSpelled [] []
  | cons {cs cs' : List Char} {p : Piece} {ps : List Piece} (h : Spelled cs p)
      (hs : AllSpelled cs' ps) : AllSpelled (cs ++ cs') (p :: ps)

/-- The characters are a text in quotes. -/
inductive IsQuoted : List Char → Text → Prop
  | mk {cs : List Char} {ps : List Piece} (h : Piece.AllSpelled cs ps) :
      IsQuoted ('"' :: (cs ++ ['"'])) (Piece.join ps)

/-! ### Documents -/

/-- The characters are a key, with white space around it. -/
inductive IsKey : List Char → Text → Prop
  | mk {before cs after : List Char} {t : Text} (hbefore : IsSpaces before) (h : IsQuoted cs t)
      (hafter : IsSpaces after) : IsKey (before ++ cs ++ after) t

/-- The characters are a document of the tree. -/
inductive Written : List Char → Json → Prop
  | spaced {before cs after : List Char} {v : Json} (hbefore : IsSpaces before) (h : Written cs v)
      (hafter : IsSpaces after) : Written (before ++ cs ++ after) v
  | null : Written ['n', 'u', 'l', 'l'] .null
  | true : Written ['t', 'r', 'u', 'e'] (.bool true)
  | false : Written ['f', 'a', 'l', 's', 'e'] (.bool false)
  | number {cs : List Char} (h : IsNumber cs) : Written cs (ofSpelling cs)
  | text {cs : List Char} {t : Text} (h : IsQuoted cs t) : Written cs (.text t)
  | emptyArray {spaces : List Char} (h : IsSpaces spaces) :
      Written ('[' :: spaces ++ [']']) (.array [])
  | array {items : List (List Char × Json)} (h : ∀ i ∈ items, Written i.1 i.2) :
      Written ('[' :: separated (items.map Prod.fst) ++ [']']) (.array (items.map Prod.snd))
  | emptyObject {spaces : List Char} (h : IsSpaces spaces) :
      Written ('\x7b' :: spaces ++ ['\x7d']) (.object [])
  | object {members : List ((List Char × Text) × (List Char × Json))}
      (hkey : ∀ m ∈ members, IsKey m.1.1 m.1.2) (h : ∀ m ∈ members, Written m.2.1 m.2.2) :
      Written ('\x7b' :: separated (members.map fun m => m.1.1 ++ ':' :: m.2.1) ++ ['\x7d'])
        (.object (members.map fun m => (m.1.2, m.2.2)))

/-! ### Printed documents -/

theorem isSpaces_nil :
  IsSpaces []
  := List.forall_mem_nil _

/-- The digits of a positive number do not start with a zero. -/
theorem head?_digits_ne_zero {n : Nat} (hn : 0 < n) :
  (Decimal.digits n).head? ≠ some '0'
  := by
  induction n using Nat.strongRecOn with
  | ind n ih =>
      rcases Nat.lt_or_ge n 10 with hlt | hle
      · rw [Decimal.digits, Nat.toDigits_of_lt_base hlt]
        interval_cases n <;> decide
      · rw [Decimal.digits, Nat.toDigits_of_base_le (by decide) hle,
          List.head?_append, List.head?_eq_some_head Nat.toDigits_ne_nil, Option.some_or,
          ← List.head?_eq_some_head]
        exact ih (n / 10) (by omega) (by omega)

theorem isWhole_digits (n : Nat) :
  IsWhole (Decimal.digits n)
  := by
  rcases Nat.eq_zero_or_pos n with rfl | hn
  · exact .zero
  · have hhead := head?_digits_ne_zero hn
    have hdigits : ∀ d ∈ Decimal.digits n, d.isDigit = true := fun d hd =>
      Nat.isDigit_of_mem_toDigits (by decide) (by decide) hd
    cases hcs : Decimal.digits n with
    | nil => exact absurd hcs Nat.toDigits_ne_nil
    | cons c cs =>
        rw [hcs] at hhead hdigits
        obtain ⟨hc, hrest⟩ := List.forall_mem_cons.mp hdigits
        have hzero : c ≠ '0' := by
          rintro rfl
          exact hhead rfl
        exact .positive hc hzero hrest

theorem isNumber_digits (n : Nat) :
  IsNumber (Decimal.digits n)
  := by
  have h := IsNumber.mk (.inl rfl) (isWhole_digits n) .none .none
  rwa [List.nil_append, List.append_nil, List.append_nil] at h

theorem ofSpelling_digits (n : Nat) :
  ofSpelling (Decimal.digits n) = .natural n
  := by
  rw [ofSpelling, if_pos, Decimal.digits, Nat.ofDigitChars_ten_toDigits]
  rw [List.all_eq_true]
  intro c hc
  exact Nat.isDigit_of_mem_toDigits (by decide) (by decide) hc

theorem spelled_code {c : Char} (h : c.toNat < 32) :
  Piece.Spelled ['\\', 'u', '0', '0', hexDigit (c.toNat / 16), hexDigit (c.toNat % 16)] (.char c)
  := by
  have hvalue : 16 * (16 * (16 * 0 + 0) + c.toNat / 16) + c.toNat % 16 = c.toNat := by omega
  have hzero : IsHex '0' 0 := .small (show 0 < 16 by decide)
  have hcode := Piece.Spelled.code hzero hzero (.small (show c.toNat / 16 < 16 by omega))
    (.small (Nat.mod_lt c.toNat (by decide)))
  rw [hvalue, Piece.ofUnit, if_neg (by omega), if_neg (by omega), Char.ofNat_toNat] at hcode
  exact hcode

/-- A character stands in a printed text in one of the ways in which it can stand. -/
theorem spelled_escape (c : Char) :
  Piece.Spelled (escape c) (.char c)
  := by
  rw [escape]
  split
  · next hc => exact .letter (hc ▸ .quote)
  · next hquote =>
    split
    · next hc => exact .letter (hc ▸ .backslash)
    · next hslash =>
      split
      · next hc => exact .letter (hc ▸ .backspace)
      split
      · next hc => exact .letter (hc ▸ .tab)
      split
      · next hc => exact .letter (hc ▸ .newline)
      split
      · next hc => exact .letter (hc ▸ .formFeed)
      split
      · next hc => exact .letter (hc ▸ .carriageReturn)
      split
      · next h => exact spelled_code h
      · next h => exact .plain hquote hslash (Nat.le_of_not_lt h)

theorem join_map_char (cs : List Char) :
  Piece.join (cs.map .char) = cs.map some
  := by
  induction cs with
  | nil => rfl
  | cons c cs ih => rw [List.map_cons, Piece.join, ih, List.map_cons]

theorem isQuoted_quoted (t : String) :
  IsQuoted (quoted (.ofString t)) (.ofString t)
  := by
  have hpieces (cs : List Char) : Piece.AllSpelled (cs.flatMap escape) (cs.map .char) := by
    induction cs with
    | nil => exact .nil
    | cons c cs ih => exact .cons (spelled_escape c) ih
  have hquoted : quoted (.ofString t) = '"' :: (t.toList.flatMap escape ++ ['"']) := by
    rw [quoted, Text.ofString, List.flatMap_map]
    rfl
  rw [hquoted, Text.ofString, ← join_map_char]
  exact .mk (hpieces t.toList)

theorem isKey_quoted (t : String) :
  IsKey (quoted (.ofString t)) (.ofString t)
  := by
  have h := IsKey.mk isSpaces_nil (isQuoted_quoted t) isSpaces_nil
  rwa [List.nil_append, List.append_nil] at h

theorem chars_array (items : List Json) :
  chars (.array items) = '[' :: separated (items.map chars) ++ [']']
  := by
  rw [chars]
  exact congrArg (fun parts => '[' :: separated parts ++ [']'])
    (List.attach_map_val (l := items) (f := chars))

theorem chars_object (members : List (Text × Json)) :
  chars (.object members)
    = '\x7b' :: separated (members.map fun m => quoted m.1 ++ ':' :: m.2.chars) ++ ['\x7d']
  := by
  rw [chars]
  exact congrArg (fun parts => '\x7b' :: separated parts ++ ['\x7d'])
    (List.attach_map_val (l := members) (f := fun m => quoted m.1 ++ ':' :: m.2.chars))

/-- The trees of strings, whole numbers, truth values and nulls. -/
inductive Plain : Json → Prop
  | null : Plain .null
  | bool (b : Bool) : Plain (.bool b)
  | natural (n : Nat) : Plain (.natural n)
  | string (t : String) : Plain (.ofString t)
  | array {items : List Json} (h : ∀ v ∈ items, Plain v) : Plain (.array items)
  | record {members : List (String × Json)} (h : ∀ m ∈ members, Plain m.2) :
      Plain (.record members)

/-- The characters of a tree are a document of it. -/
theorem Plain.written {v : Json} (h : Plain v) :
  Written v.chars v
  := by
  induction h with
  | null =>
      rw [chars]
      exact .null
  | bool b =>
      cases b <;> rw [chars]
      · exact .false
      · exact .true
  | natural n =>
      rw [chars, ← ofSpelling_digits]
      exact .number (isNumber_digits n)
  | string t =>
      rw [ofString, chars]
      exact .text (isQuoted_quoted t)
  | @array items h ih =>
      have hitems : ∀ i ∈ items.map fun v => (v.chars, v), Written i.1 i.2 := by
        rw [List.forall_mem_map]
        exact ih
      have hwritten := Written.array hitems
      simp only [List.map_map, Function.comp_def, List.map_id'] at hwritten
      rw [chars_array]
      exact hwritten
  | @record members h ih =>
      let parts := members.map fun m =>
        ((quoted (.ofString m.1), Text.ofString m.1), (m.2.chars, m.2))
      have hkeys : ∀ m ∈ parts, IsKey m.1.1 m.1.2 := by
        rw [List.forall_mem_map]
        intro m _
        exact isKey_quoted m.1
      have hvalues : ∀ m ∈ parts, Written m.2.1 m.2.2 := by
        rw [List.forall_mem_map]
        exact ih
      have hwritten := Written.object hkeys hvalues
      simp only [parts, List.map_map, Function.comp_def] at hwritten
      rw [Json.record, chars_object, List.map_map]
      exact hwritten

end LogCourier.Json
