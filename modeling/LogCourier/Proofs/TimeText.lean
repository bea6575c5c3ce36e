import LogCourier.Proofs.Trimming
import LogCourier.QueryLog.Timestamp
import Mathlib.Data.Nat.Digits.Defs

/-!
# The parts of a time as text

Numbers are written with as many digits as their place in a time has (`Decimal.padded`), a fraction
of a second with any number of digits (`Timestamp.fractionChars`), and the offset from UTC with a
sign, or a letter instead (`Timestamp.Zone.chars`). Each of these parts is read back with the rest
of the text behind it: a number ends by its width, a fraction at a character that is no digit.
-/

namespace LogCourier

/-! ### Numbers of a fixed width -/

namespace Decimal

variable {width n : Nat} {c : Char}

theorem length_padded (hwidth : 0 < width) (hn : n < 10 ^ width) :
  (padded width n).length = width
  := by
  have hle : (digits n).length ≤ width := Nat.toDigits_length 10 n width hwidth hn
  rw [padded, List.length_append, List.length_replicate, Nat.sub_add_cancel hle]

theorem padded_ne_nil :
  padded width n ≠ []
  := List.append_ne_nil_of_right_ne_nil _ Nat.toDigits_ne_nil

theorem isDigit_of_mem_padded (h : c ∈ padded width n) :
  c.isDigit = true
  := by
  rw [padded, List.mem_append] at h
  rcases h with h | h
  · rw [List.eq_of_mem_replicate h]
    decide
  · apply Nat.isDigit_of_mem_toDigits (by decide) (by decide) h

theorem ofDigitChars_padded :
  Nat.ofDigitChars 10 (padded width n) 0 = n
  := by
  rw [padded, Nat.ofDigitChars_append, Nat.ofDigitChars_replicate_zero, Nat.mul_zero]
  apply Nat.ofDigitChars_ten_toDigits

/-- The decimal text of an integer is the usual one. -/
theorem intText_eq (z : Int) :
  intText z = toString z
  := by
  cases z with
  | ofNat n => rfl
  | negSucc n =>
      rw [intText, if_pos (Int.negSucc_lt_zero n)]
      change String.ofList (['-'] ++ Nat.toDigits 10 (n + 1)) = "-" ++ _
      rw [String.ofList_append]
      rfl

end Decimal

namespace Timestamp

open Decimal (padded)

/-! ### Reading the parts of a time -/

variable {width n low high : Nat} {ds cs rest : List Char} {c : Char}

/-- Digits are told apart from what follows them by their number, or by a character that is none. -/
theorem spanDigits_append (hds : ∀ c ∈ ds, c.isDigit = true) (hle : ds.length ≤ width)
    (hrest : ∀ c ∈ (rest.take (width - ds.length)).head?, c.isDigit = false) :
  spanDigits width (ds ++ rest) = (ds, rest)
  := by
  have hspan : ((ds ++ rest).take width).takeWhile Char.isDigit = ds := by
    rw [List.take_append, List.take_of_length_le hle, List.takeWhile_append_of_pos hds]
    cases hcs : rest.take (width - ds.length) with
    | nil => apply List.append_nil
    | cons c cs =>
        rw [hcs] at hrest
        rw [List.takeWhile_cons_of_neg (Bool.eq_false_iff.mp (hrest c rfl)), List.append_nil]
  rw [spanDigits, hspan, List.drop_left]

theorem spanDigits_padded (hwidth : 0 < width) (hn : n < 10 ^ width) :
  spanDigits width (padded width n ++ rest) = (padded width n, rest)
  := by
  have hlength := Decimal.length_padded hwidth hn
  apply spanDigits_append (fun c hc => Decimal.isDigit_of_mem_padded hc) hlength.le
  rw [hlength, Nat.sub_self]
  nofun

theorem exactly_padded (hwidth : 0 < width) (hn : n < 10 ^ width) :
  exactly width (padded width n ++ rest) = some (n, rest)
  := by
  rw [exactly, spanDigits_padded hwidth hn]
  dsimp only
  rw [if_pos (Decimal.length_padded hwidth hn), Decimal.ofDigitChars_padded]

theorem oneOf_cons {p : Char → Bool} (h : p c = true) :
  oneOf p (c :: rest) = some (c, rest)
  := if_pos h

/-- Go on after a part that is read, in the strict notation. -/
theorem bind_of_eq_some {α β : Type} {x : Option α} {f : α → Option β} {a : α} (h : x = some a) :
  (x >>= f) = f a
  := by
  rw [h]
  rfl

/-- Go on after a part that is read, in the looser notation. -/
theorem bind_of_ok {α β : Type} {x : Scan α} {f : α → Scan β} {a : α} (h : x cs = .ok (a, rest)) :
  (x >>= f) cs = f a rest
  := by
  change (x cs).bind _ = _
  rw [h]
  rfl

theorem get_eq :
  (get : Scan (List Char)) cs = .ok (cs, cs)
  := rfl

theorem pure_eq {α : Type} {a : α} :
  (pure a : Scan α) cs = .ok (a, cs)
  := rfl

theorem literal_cons :
  literal c (c :: rest) = .ok ((), rest)
  := if_pos rfl

theorem number_padded (hwidth : 0 < width) (hn : n < 10 ^ width) :
  number width (padded width n ++ rest) = .ok (n, rest)
  := by
  rw [number, spanDigits_padded hwidth hn]
  split
  · next heq => exact absurd (congrArg Prod.fst heq) Decimal.padded_ne_nil
  · next heq => exact absurd (congrArg Prod.fst heq) Decimal.padded_ne_nil
  · next heq =>
    cases heq
    rw [Decimal.ofDigitChars_padded]

/-- A number begins with a digit. -/
theorem exists_padded_eq_cons (width n : Nat) :
  ∃ c cs, padded width n = c :: cs ∧ c.isDigit = true
  := by
  cases hcs : padded width n with
  | nil => exact absurd hcs Decimal.padded_ne_nil
  | cons c cs =>
      have hmem : c ∈ padded width n := by
        rw [hcs]
        apply List.mem_cons_self
      exact ⟨c, cs, rfl, Decimal.isDigit_of_mem_padded hmem⟩

/-- Nothing is skipped before a number. -/
theorem skipBlank_padded :
  skipBlank (padded width n ++ rest) = .ok ((), padded width n ++ rest)
  := by
  obtain ⟨c, cs, hcs, hc⟩ := exists_padded_eq_cons width n
  rw [skipBlank, hcs, List.cons_append, List.dropWhile_cons_of_neg]
  rw [Text.isBlank_of_isDigit hc]
  exact Bool.false_ne_true

theorem field_padded (hn : n < 100) (hlow : low ≤ n) (hhigh : n ≤ high) :
  field low high (padded 2 n ++ rest) = .ok (n, rest)
  := by
  rw [field, bind_of_ok skipBlank_padded, bind_of_ok (number_padded (by decide) hn),
    if_pos ⟨hlow, hhigh⟩]
  rfl

theorem year_padded (hn : n < 10000) :
  year (padded 4 n ++ rest) = .ok ((n : Int), rest)
  := by
  obtain ⟨c, cs, hcs, hc⟩ := exists_padded_eq_cons 4 n
  have hnumber : number 4 (padded 4 n ++ rest) = .ok (n, rest) := number_padded (by decide) hn
  rw [year, bind_of_ok skipBlank_padded]
  rw [hcs, List.cons_append] at hnumber ⊢
  -- the text begins with a digit, so none of the two signs is there
  generalize hl : c :: (cs ++ rest) = l at hnumber ⊢
  rw [bind_of_ok get_eq]
  split
  · cases hl
    cases hc
  · cases hl
    cases hc
  · have hrange : -2147483648 ≤ (n : Int) ∧ (n : Int) ≤ 2147483647 := by omega
    rw [bind_of_ok hnumber, bind_of_ok pure_eq]
    dsimp only
    rw [if_pos hrange]
    rfl

/-! ### Fractions of a second -/

/-- The nanoseconds of the digits of a fraction, of which the first counts `unit` of them, and every
other a tenth of the one before it, without a remainder. -/
def digitsValue : (unit : Nat) → List (Fin 10) → Nat
  | _, [] => 0
  | unit, d :: ds => unit * d.val + digitsValue (unit / 10) ds

/-- The characters of digits. -/
def digitChars (fs : List (Fin 10)) : List Char :=
  fs.map fun d => Nat.digitChar d.val

/-- A fraction of a second as it is written: a point and digits, or nothing if there are none. -/
def fractionChars (fs : List (Fin 10)) : List Char :=
  if fs = [] then [] else '.' :: digitChars fs

variable {fs : List (Fin 10)}

theorem isDigit_of_mem_digitChars (h : c ∈ digitChars fs) :
  c.isDigit = true
  := by
  have hdigit : ∀ d : Fin 10, (Nat.digitChar d.val).isDigit = true := by decide
  obtain ⟨d, -, rfl⟩ := List.mem_map.mp h
  apply hdigit

theorem digitsValue_zero (fs : List (Fin 10)) :
  digitsValue 0 fs = 0
  := by
  induction fs with
  | nil => rfl
  | cons d fs ih => rw [digitsValue, ih, Nat.zero_mul]

theorem digitsValue_cons (places : Nat) (d : Fin 10) (fs : List (Fin 10)) :
  digitsValue (10 ^ (places + 1) / 10) (d :: fs)
    = 10 ^ places * d.val + digitsValue (10 ^ places / 10) fs
  := by
  have hunit : 10 ^ (places + 1) / 10 = 10 ^ places := Nat.mul_div_cancel _ (by decide)
  rw [digitsValue, hunit]

/-- Of the digits of a fraction as many count as there are places. -/
theorem ofDigitChars_take (places : Nat) (fs : List (Fin 10)) :
  Nat.ofDigitChars 10 ((digitChars fs).take places) 0
      * 10 ^ (places - ((digitChars fs).take places).length)
    = digitsValue (10 ^ places / 10) fs
  := by
  induction fs generalizing places with
  | nil => rw [digitChars, List.map_nil, List.take_nil, Nat.ofDigitChars_nil, Nat.zero_mul,
      digitsValue]
  | cons d fs ih =>
      cases places with
      | zero =>
          rw [List.take_zero, Nat.ofDigitChars_nil, Nat.zero_mul]
          exact (digitsValue_zero _).symm
      | succ places =>
          have hle := List.length_take_le places (digitChars fs)
          rw [digitChars, List.map_cons, ← digitChars, List.take_succ_cons,
            Nat.ofDigitChars_cons_digitChar_of_lt_ten d.isLt, Nat.ofDigitChars_eq_ofDigitChars_zero,
            List.length_cons, Nat.add_sub_add_right, Nat.add_mul, ih, digitsValue_cons,
            Nat.mul_zero, Nat.zero_add, Nat.mul_right_comm, ← Nat.pow_add, Nat.add_sub_cancel' hle]

/-- Nine of the digits of a fraction count. -/
theorem nanosOfDigits_eq (fs : List (Fin 10)) :
  nanosOfDigits (digitChars fs) = digitsValue 100000000 fs
  := ofDigitChars_take 9 fs

example : nanosOfDigits "0125".toList = 12500000 := by decide

/-- A fraction is read up to a character that is neither a digit nor a point. -/
theorem fraction_append (hrest : ∀ c ∈ rest.head?, c.isDigit = false ∧ c ≠ '.') :
  fraction (fractionChars fs ++ rest) = .ok (digitsValue 100000000 fs, rest)
  := by
  cases fs with
  | nil =>
      rw [fractionChars, if_pos rfl, List.nil_append, fraction]
      · rfl
      · rintro rest' rfl
        exact (hrest '.' rfl).2 rfl
  | cons d fs =>
      have hle : (digitChars (d :: fs)).length ≤ (digitChars (d :: fs) ++ rest).length := by
        rw [List.length_append]
        apply Nat.le_add_right
      have hspan : spanDigits (digitChars (d :: fs) ++ rest).length (digitChars (d :: fs) ++ rest)
          = (digitChars (d :: fs), rest) := by
        apply spanDigits_append (fun c hc => isDigit_of_mem_digitChars hc) hle
        intro c hc
        rw [List.length_append, Nat.add_sub_cancel_left, List.take_length] at hc
        exact (hrest c hc).1
      rw [fractionChars, if_neg nofun, List.cons_append, fraction, hspan, ← nanosOfDigits_eq]
      rfl

/-- Every number below a power of ten is the value of so many digits. -/
theorem exists_digits {places n : Nat} (h : n < 10 ^ places) :
  ∃ fs : List (Fin 10), fs.length = places ∧ digitsValue (10 ^ places / 10) fs = n
  := by
  induction places generalizing n with
  | zero => exact ⟨[], rfl, (Nat.lt_one_iff.mp h).symm⟩
  | succ places ih =>
      have hpos : 0 < 10 ^ places := Nat.pow_pos (by decide)
      obtain ⟨fs, hlength, hvalue⟩ := ih (Nat.mod_lt n hpos)
      have hdigit : n / 10 ^ places < 10 := Nat.div_lt_of_lt_mul h
      refine ⟨⟨_, hdigit⟩ :: fs, congrArg Nat.succ hlength, ?_⟩
      rw [digitsValue_cons, hvalue, Nat.div_add_mod]

/-! ### The characters of a time -/

/-- The character is a digit, or a mark that stands between the numbers of a time. -/
def IsPart (c : Char) : Prop :=
  c.isDigit = true ∨ c ∈ ['-', '+', 'T', ':', '.']

theorem not_isPart_zulu :
  ¬ IsPart 'Z'
  := by
  rintro (h | h)
  · cases h
  · revert h
    decide

theorem IsPart.isBlank (h : IsPart c) :
  Text.isBlank c = false
  := by
  have hmarks : ['-', '+', 'T', ':', '.'].all (fun c => Text.isBlank c == false) = true := by decide
  rcases h with h | h
  · apply Text.isBlank_of_isDigit h
  · exact beq_iff_eq.mp (List.all_eq_true.mp hmarks c h)

theorem isPart_of_mem_fractionChars {fs : List (Fin 10)} (h : c ∈ fractionChars fs) :
  IsPart c
  := by
  rw [fractionChars] at h
  split at h
  · cases h
  · rcases List.mem_cons.mp h with rfl | h
    · exact .inr (by decide)
    · exact .inl (isDigit_of_mem_digitChars h)

/-! ### Offsets from UTC -/

/-- How far a clock is ahead of UTC, as it is written: a sign, hours and minutes, or a letter that
stands for UTC, or nothing, which stands for it as well. -/
inductive Zone
  | absent
  | zulu
  | offset (isBehind : Bool) (hours minutes : Nat) (hours_le : hours ≤ 23)
    (minutes_le : minutes ≤ 59)

namespace Zone

/-- A zone as it is written. -/
def chars : Zone → List Char
  | absent => []
  | zulu => ['Z']
  | offset isBehind hours minutes _ _ =>
    (if isBehind then '-' else '+') :: (padded 2 hours ++ ':' :: padded 2 minutes)

theorem isPart_or_eq_of_mem {z : Zone} (h : c ∈ z.chars) :
  IsPart c ∨ z = zulu ∧ c = 'Z'
  := by
  cases z with
  | absent => cases h
  | zulu => exact .inr ⟨rfl, List.mem_singleton.mp h⟩
  | offset isBehind hours minutes hhours hminutes =>
      rw [chars, List.mem_cons, List.mem_append, List.mem_cons] at h
      rcases h with h | h | rfl | h
      · left
        right
        rw [h]
        cases isBehind <;> decide
      · exact .inl (.inl (Decimal.isDigit_of_mem_padded h))
      · exact .inl (.inr (by decide))
      · exact .inl (.inl (Decimal.isDigit_of_mem_padded h))

/-- A zone does not go on with a fraction. -/
theorem head_chars (z : Zone) :
  ∀ c ∈ z.chars.head?, c.isDigit = false ∧ c ≠ '.'
  := by
  rintro c hc
  cases z with
  | absent => cases hc
  | zulu =>
      cases hc
      decide
  | offset isBehind hours minutes hhours hminutes =>
      cases hc
      cases isBehind <;> decide

/-- The seconds that a clock is ahead of UTC. -/
def seconds : Zone → Int
  | absent | zulu => 0
  | offset false hours minutes _ _ => 3600 * hours + 60 * minutes
  | offset true hours minutes _ _ => -(3600 * hours + 60 * minutes)

/-- A zone with the letter for UTC spelled out. -/
def spelled : Zone → Zone
  | zulu => offset false 0 0 (by decide) (by decide)
  | z => z

theorem spelled_of_ne_zulu {z : Zone} (h : z ≠ zulu) :
  z.spelled = z
  := by
  cases z with
  | zulu => exact absurd rfl h
  | _ => rfl

theorem spelled_ne_zulu (z : Zone) :
  z.spelled ≠ zulu
  := by
  cases z <;> nofun

theorem seconds_spelled (z : Zone) :
  z.spelled.seconds = z.seconds
  := by
  cases z <;> rfl

/-- An offset is read from what is written. -/
theorem offset_chars {isBehind : Bool} {hours minutes : Nat} (hhours : hours ≤ 23)
    (hminutes : minutes ≤ 59) :
  Timestamp.offset (offset isBehind hours minutes hhours hminutes).chars
    = some ((offset isBehind hours minutes hhours hminutes).seconds, [])
  := by
  have hhours' : hours < 10 ^ 2 := Nat.lt_of_le_of_lt hhours (by decide)
  have hminutes' : minutes < 10 ^ 2 := Nat.lt_of_le_of_lt hminutes (by decide)
  have hread : exactly 2 (padded 2 minutes ++ []) = some (minutes, []) :=
    exactly_padded (by decide) hminutes'
  rw [List.append_nil] at hread
  rw [chars, Timestamp.offset]
  refine (bind_of_eq_some (oneOf_cons (by cases isBehind <;> decide))).trans ?_
  dsimp only
  rw [if_neg (by cases isBehind <;> decide)]
  refine (bind_of_eq_some (exactly_padded (by decide) hhours')).trans ?_
  refine (bind_of_eq_some (oneOf_cons (by decide))).trans ?_
  refine (bind_of_eq_some hread).trans ?_
  dsimp only
  rw [guard, if_pos ⟨hhours, hminutes⟩]
  cases isBehind <;> rfl

end Zone

/-! ### The letter for UTC -/

theorem spellZulu_of_not_mem {cs : List Char} (h : 'Z' ∉ cs) :
  spellZulu cs = cs
  := by
  rw [spellZulu]
  split
  · next before heq =>
    have hmem : 'Z' ∈ cs.reverse := by
      rw [heq]
      apply List.mem_cons_self
    exact absurd (List.mem_reverse.mp hmem) h
  · rfl

theorem spellZulu_concat (cs : List Char) :
  spellZulu (cs ++ ['Z']) = cs ++ ['+', '0', '0', ':', '0', '0']
  := by
  rw [spellZulu, List.reverse_append]
  change cs.reverse.reverse ++ _ = _
  rw [List.reverse_reverse]

end Timestamp

end LogCourier
