import LogCourier.Json.Reader
import LogCourier.Proofs.JsonGrammar

/-!
# Scanning a document

Characters that the scanner cuts into certain units, wherever in a document they stand
(`Json.Lexes`, `Json.Closes`). Of a number the scanner learns only afterwards that it has ended,
so such characters may leave a number in hand; what follows them in a document is always a
punctuation mark or white space, which ends the number. So the units of composed characters are
composed of the units of their parts (`Closes.append`, `Lexes.mark`, `Lexes.spaces`), and it remains
to look at words, texts (`closes_quoted`) and numbers (`lexes_number`).
-/

namespace LogCourier.Json

namespace Scanner

/-- The units completed so far, in order. -/
def units (s : Scanner) : List Lexeme :=
  s.done.reverse.map Placed.lexeme

/-- Read some characters. -/
def readAll (s : Scanner) (cs : List Char) : Scanner :=
  (cs.map some).foldl step s

@[simp]
theorem readAll_nil (s : Scanner) :
  s.readAll [] = s
  := rfl

@[simp]
theorem readAll_cons (s : Scanner) (c : Char) (cs : List Char) :
  s.readAll (c :: cs) = (s.step (some c)).readAll cs
  := rfl

@[simp]
theorem readAll_append (s : Scanner) (cs₁ cs₂ : List Char) :
  s.readAll (cs₁ ++ cs₂) = (s.readAll cs₁).readAll cs₂
  := by
  rw [readAll, List.map_append, List.foldl_append]
  rfl

/-- The machine is between units, and the units before are the given ones. -/
structure Blank (s : Scanner) (us : List Lexeme) : Prop where
  doing_eq : s.doing = .blank
  units_eq : s.units = us

/-- The machine is between units or may be, and the units before are the given ones. -/
inductive Rests (s : Scanner) (us : List Lexeme) : Prop
  | blank (h : s.Blank us)
  | number {part : NumberPart} {before : List Char} (hdoing : s.doing = .number part before)
      (hend : part.mayEnd = true) (hunits : s.units ++ [numberLexeme before.reverse] = us)

end Scanner

/-- The character is a punctuation mark with the unit. -/
inductive Punctuates : Char → Lexeme → Prop
  | openArray : Punctuates '[' .openArray
  | closeArray : Punctuates ']' .closeArray
  | openObject : Punctuates '\x7b' .openObject
  | closeObject : Punctuates '\x7d' .closeObject
  | comma : Punctuates ',' .comma
  | colon : Punctuates ':' .colon

/-- Between units the characters are read as the given units, the last of which may be a number
in hand. -/
def Lexes (cs : List Char) (us : List Lexeme) : Prop :=
  ∀ (s : Scanner) (vs : List Lexeme), s.Blank vs → (s.readAll cs).Rests (vs ++ us)

/-- Between units the characters are read as the given units. -/
def Closes (cs : List Char) (us : List Lexeme) : Prop :=
  ∀ (s : Scanner) (vs : List Lexeme), s.Blank vs → (s.readAll cs).Blank (vs ++ us)

variable {c : Char} {cs cs₁ cs₂ : List Char} {l : Lexeme} {us us₁ us₂ : List Lexeme}

/-! ### Composed characters -/

theorem closes_nil :
  Closes [] []
  := by
  intro s vs h
  rwa [List.append_nil]

theorem Closes.lexes (h : Closes cs us) :
  Lexes cs us
  := fun s vs hs => .blank (h s vs hs)

theorem Closes.append (h₁ : Closes cs₁ us₁) (h₂ : Closes cs₂ us₂) :
  Closes (cs₁ ++ cs₂) (us₁ ++ us₂)
  := by
  intro s vs hs
  rw [Scanner.readAll_append, ← List.append_assoc]
  exact h₂ _ _ (h₁ s vs hs)

theorem Closes.append_lexes (h₁ : Closes cs₁ us₁) (h₂ : Lexes cs₂ us₂) :
  Lexes (cs₁ ++ cs₂) (us₁ ++ us₂)
  := by
  intro s vs hs
  rw [Scanner.readAll_append, ← List.append_assoc]
  exact h₂ _ _ (h₁ s vs hs)

/-- The character is no part of a number that may end before it. -/
def Delimits (c : Char) : Prop :=
  c.isDigit = false ∧ c ≠ '.' ∧ c ≠ 'e' ∧ c ≠ 'E'

theorem Punctuates.delimits (h : Punctuates c l) :
  Delimits c
  := by
  cases h <;> exact ⟨by decide, by decide, by decide, by decide⟩

theorem delimits_of_isSpace (h : Scanner.isSpace c = true) :
  Delimits c
  := by
  rw [Scanner.isSpace, decide_eq_true_iff] at h
  rcases h with rfl | rfl | rfl | rfl <;> exact ⟨by decide, by decide, by decide, by decide⟩

theorem step_of_delimits {part : NumberPart} (h : Delimits c) (hpart : part.mayEnd = true) :
  part.step c = .finish
  := by
  obtain ⟨hdigit, hpoint, hsmall, hcapital⟩ := h
  cases part with
  | sign | point | mark | markSign => cases hpart
  | zero | whole | fraction | exponent =>
      simp [NumberPart.step, hdigit, hpoint, hsmall, hcapital]

namespace Scanner

variable {s : Scanner}

/-- Where a unit may end, it has ended before a character that delimits it. -/
theorem Rests.exists_step (hs : s.Rests us) (h : Delimits c) :
  ∃ t : Scanner, t.units = us
    ∧ s.step (some c) = { t.begin (some c) with index := s.index + 1 }
  := by
  cases hs with
  | blank hs =>
      refine ⟨s, hs.units_eq, ?_⟩
      rw [step, read, hs.doing_eq]
  | @number part before hdoing hend hunits =>
      refine ⟨s.emit s.index (numberLexeme before.reverse), ?_, ?_⟩
      · rw [← hunits, units, emit, List.reverse_cons, List.map_append]
        rfl
      · rw [step, read, hdoing]
        dsimp only [NumberPart.glyph]
        rw [step_of_delimits h hend]

theorem begin_of_punctuates (s : Scanner) (h : Punctuates c l) :
  s.begin (some c)
    = ⟨s.index, s.index, .blank, none, ⟨s.index, s.index + 1, l, none⟩ :: s.done⟩
  := by
  cases h <;> rfl

theorem begin_of_isSpace (s : Scanner) (h : isSpace c = true) :
  s.begin (some c) = ⟨s.index, s.index, .blank, none, s.done⟩
  := by
  rw [begin]
  exact if_pos h

theorem Rests.mark (hs : s.Rests us) (h : Punctuates c l) :
  (s.step (some c)).Blank (us ++ [l])
  := by
  obtain ⟨t, rfl, hstep⟩ := hs.exists_step h.delimits
  rw [hstep, begin_of_punctuates t h]
  constructor
  · rfl
  · rw [units, List.reverse_cons, List.map_append]
    rfl

theorem Rests.space (hs : s.Rests us) (h : isSpace c = true) :
  (s.step (some c)).Blank us
  := by
  obtain ⟨t, rfl, hstep⟩ := hs.exists_step (delimits_of_isSpace h)
  rw [hstep, begin_of_isSpace t h]
  exact ⟨rfl, rfl⟩

end Scanner

theorem IsSpaces.isSpace (h : IsSpaces cs) :
  ∀ c ∈ cs, Scanner.isSpace c = true
  := fun c hc => decide_eq_true (h c hc)

/-- White space is no unit. -/
theorem closes_spaces (h : IsSpaces cs) :
  Closes cs []
  := by
  induction cs with
  | nil => exact closes_nil
  | cons c cs ih =>
      obtain ⟨hc, hcs⟩ := List.forall_mem_cons.mp h.isSpace
      intro s vs hs
      have hspace := (Scanner.Rests.blank hs).space hc
      exact ih (List.forall_mem_cons.mp h).2 _ _ hspace

/-- White space after some units is no unit. -/
theorem Lexes.spaces {spaces : List Char} (h : Lexes cs us) (hspaces : IsSpaces spaces) :
  Lexes (cs ++ spaces) us
  := by
  intro s vs hs
  rw [Scanner.readAll_append]
  cases spaces with
  | nil => exact h s vs hs
  | cons c spaces =>
      obtain ⟨hc, -⟩ := List.forall_mem_cons.mp hspaces.isSpace
      have hclosed := closes_spaces (List.forall_mem_cons.mp hspaces).2 _ _ ((h s vs hs).space hc)
      rw [List.append_nil] at hclosed
      exact .blank hclosed

/-- A punctuation mark after some units is a unit of its own. -/
theorem Lexes.mark (h : Lexes cs us) (hc : Punctuates c l) :
  Closes (cs ++ [c]) (us ++ [l])
  := by
  intro s vs hs
  rw [Scanner.readAll_append, ← List.append_assoc]
  exact (h s vs hs).mark hc

theorem closes_mark (hc : Punctuates c l) :
  Closes [c] [l]
  := closes_nil.lexes.mark hc

/-! ### Words -/

namespace Scanner

/-- A unit that is completed at the end of some characters comes after the others. -/
theorem blank_of_eq {s t : Scanner} {i j k : Nat} {lone lone' : Option Fault}
    (ht : t = ⟨i, j, .blank, lone, ⟨j, k, l, lone'⟩ :: s.done⟩) :
  t.Blank (s.units ++ [l])
  := by
  subst ht
  constructor
  · rfl
  · rw [units, List.reverse_cons, List.map_append]
    rfl

end Scanner

theorem closes_null :
  Closes ['n', 'u', 'l', 'l'] [.null]
  := by
  rintro ⟨index, start, doing, lone, done⟩ vs ⟨rfl, rfl⟩
  exact Scanner.blank_of_eq rfl

theorem closes_true :
  Closes ['t', 'r', 'u', 'e'] [.bool true]
  := by
  rintro ⟨index, start, doing, lone, done⟩ vs ⟨rfl, rfl⟩
  exact Scanner.blank_of_eq rfl

theorem closes_false :
  Closes ['f', 'a', 'l', 's', 'e'] [.bool false]
  := by
  rintro ⟨index, start, doing, lone, done⟩ vs ⟨rfl, rfl⟩
  exact Scanner.blank_of_eq rfl

/-! ### Texts -/

/-- What a piece adds to the glyphs of a text so far, last first, with a high surrogate that waits
for its partner after them. -/
def Piece.add (before : Text) : Option Nat → Piece → Text × Option Nat
  | waiting, .char c => (some c :: settle before waiting, none)
  | waiting, .high n => (settle before waiting, some n)
  | none, .low _ => (none :: before, none)
  | some n, .low m =>
    (some (Char.ofNat (0x10000 + (n - 0xd800) * 0x400 + (m - 0xdc00))) :: before, none)

/-- In the end the glyphs are those of the pieces. -/
theorem settle_foldl_add (ps : List Piece) (before : Text) (high : Option Nat) :
  (settle (ps.foldl (fun t p => p.add t.1 t.2) (before, high)).1
      (ps.foldl (fun t p => p.add t.1 t.2) (before, high)).2).reverse
    = before.reverse ++ Piece.join (high.toList.map .high ++ ps)
  := by
  induction ps generalizing before high with
  | nil => cases high <;> simp [settle, Piece.join]
  | cons p ps ih =>
      rw [List.foldl_cons, ih]
      cases high <;> cases p <;> simp [Piece.add, settle, Piece.join]

theorem hexDigit?_of_isHex {d : Char} {n : Nat} (h : IsHex d n) :
  Scanner.hexDigit? d = some n
  := by
  cases h with
  | small h => decide +revert
  | capital h => decide +revert

theorem escaped?_of_letter {e d : Char} (h : Letter e d) :
  e ≠ 'u' ∧ Scanner.escaped? e = some d
  := by
  cases h <;> exact ⟨by decide, rfl⟩

namespace Scanner

/-- Inside a text with some glyphs so far, last first, and perhaps a high surrogate after them. -/
def inText (before : Text) : Option Nat → Scanning
  | none => .text before
  | some n => .pair before n

/-- The machine is inside a text, and the units before are the given ones. -/
structure InText (s : Scanner) (before : Text) (high : Option Nat) (us : List Lexeme) : Prop where
  doing_eq : s.doing = inText before high
  units_eq : s.units = us

variable {s : Scanner} {before : Text} {high : Option Nat}

/-- A code unit is added as a piece; a surrogate may be noted that has no partner. -/
theorem exists_unit_eq (s : Scanner) (before : Text) (high : Option Nat) (n : Nat) :
  ∃ lone, s.unit before high n = { s with
    lone
    doing := inText (Piece.add before high (.ofUnit n)).1 (Piece.add before high (.ofUnit n)).2 }
  := by
  unfold unit Piece.ofUnit
  by_cases hhigh : 0xd800 ≤ n ∧ n < 0xdc00
  · simp only [if_pos hhigh]
    cases high <;> exact ⟨_, rfl⟩
  · by_cases hlow : 0xdc00 ≤ n ∧ n < 0xe000
    · simp only [if_neg hhigh, if_pos hlow]
      cases high <;> exact ⟨_, rfl⟩
    · simp only [if_neg hhigh, if_neg hlow]
      cases high <;> exact ⟨_, rfl⟩

/-- A piece is read from any form in which it can stand. -/
theorem InText.readAll_piece {p : Piece} (h : s.InText before high us) (hp : Piece.Spelled cs p) :
  (s.readAll cs).InText (p.add before high).1 (p.add before high).2 us
  := by
  obtain ⟨index, start, doing, lone, done⟩ := s
  obtain ⟨rfl, rfl⟩ := h
  suffices hread : ∃ i lone', readAll ⟨index, start, inText before high, lone, done⟩ cs
      = ⟨i, start, inText (p.add before high).1 (p.add before high).2, lone', done⟩ by
    obtain ⟨i, lone', hread⟩ := hread
    rw [hread]
    exact ⟨rfl, rfl⟩
  cases hp with
  | plain hquote hslash h =>
      cases high <;>
        simp [inText, step, read, textGlyph, blame, hquote, hslash, Nat.not_lt_of_le h, Piece.add,
          settle]
  | letter he =>
      obtain ⟨hu, he⟩ := escaped?_of_letter he
      cases high <;>
        simp [inText, step, read, textGlyph, escapeGlyph, blame, hu, he, Piece.add, settle]
  | @code c₁ c₂ c₃ c₄ n₁ n₂ n₃ n₄ h₁ h₂ h₃ h₄ =>
      have hbefore : readAll ⟨index, start, inText before high, lone, done⟩ ['\\', 'u', c₁, c₂, c₃]
          = ⟨index + 5, start, .hex before high [some c₃, some c₂, some c₁], lone, done⟩ := by
        cases high <;> rfl
      have hvalue : hexValue? [some c₄, some c₃, some c₂, some c₁]
          = some (16 * (16 * (16 * n₁ + n₂) + n₃) + n₄) := by
        simp [hexValue?, hexDigit?_of_isHex h₁, hexDigit?_of_isHex h₂, hexDigit?_of_isHex h₃,
          hexDigit?_of_isHex h₄]
      change ∃ i lone', (readAll _ ['\\', 'u', c₁, c₂, c₃]).step (some c₄) = _
      rw [hbefore, step, read]
      dsimp only
      rw [if_neg (by simp), hvalue]
      dsimp only
      obtain ⟨lone', hunit⟩ := exists_unit_eq
        ⟨index + 5, start, .hex before high [some c₃, some c₂, some c₁], lone, done⟩ before high
        (16 * (16 * (16 * n₁ + n₂) + n₃) + n₄)
      rw [hunit]
      exact ⟨_, _, rfl⟩

theorem InText.readAll_pieces {ps : List Piece} (h : s.InText before high us)
    (hps : Piece.AllSpelled cs ps) :
  (s.readAll cs).InText (ps.foldl (fun t p => p.add t.1 t.2) (before, high)).1
    (ps.foldl (fun t p => p.add t.1 t.2) (before, high)).2 us
  := by
  induction hps generalizing s before high with
  | nil => exact h
  | cons hp hs ih =>
      rw [readAll_append, List.foldl_cons]
      exact ih (h.readAll_piece hp)

theorem Blank.quote (h : s.Blank us) :
  (s.step (some '"')).InText [] none us
  := by
  obtain ⟨index, start, doing, lone, done⟩ := s
  obtain ⟨rfl, rfl⟩ := h
  exact ⟨rfl, rfl⟩

theorem InText.quote (h : s.InText before high us) :
  (s.step (some '"')).Blank (us ++ [.text (settle before high).reverse])
  := by
  obtain ⟨index, start, doing, lone, done⟩ := s
  obtain ⟨rfl, rfl⟩ := h
  cases high <;> exact blank_of_eq rfl

end Scanner

/-- A text in quotes is read as this text. -/
theorem closes_quoted {t : Text} (h : IsQuoted cs t) :
  Closes cs [.text t]
  := by
  obtain ⟨hpieces⟩ := h
  intro s vs hs
  have hclose := (hs.quote.readAll_pieces hpieces).quote
  rw [settle_foldl_add] at hclose
  rw [Scanner.readAll_cons, Scanner.readAll_append]
  exact hclose

/-! ### Numbers -/

/-- The characters take a number from one of its parts to another. -/
inductive NumberPart.Path : NumberPart → List Char → NumberPart → Prop
  | nil {part : NumberPart} : Path part [] part
  | cons {part next last : NumberPart} {c : Char} {cs : List Char} (h : part.step c = .extend next)
      (hs : Path next cs last) : Path part (c :: cs) last

namespace NumberPart

variable {part next last : NumberPart}

theorem Path.append (h : Path part cs₁ next) (h' : Path next cs₂ last) :
  Path part (cs₁ ++ cs₂) last
  := by
  induction h with
  | nil => exact h'
  | cons hstep hs ih => exact .cons hstep (ih h')

theorem ne_of_isDigit (h : c.isDigit = true) :
  c ≠ '.' ∧ c ≠ 'e' ∧ c ≠ 'E' ∧ c ≠ '+' ∧ c ≠ '-'
  := by
  refine ⟨?_, ?_, ?_, ?_, ?_⟩ <;> rintro rfl <;> cases h

/-- A part with digits goes on with digits. -/
theorem path_digits (hpart : part = .whole ∨ part = .fraction ∨ part = .exponent)
    (h : ∀ d ∈ cs, d.isDigit = true) :
  Path part cs part
  := by
  induction cs with
  | nil => exact .nil
  | cons c cs ih =>
      obtain ⟨hc, hcs⟩ := List.forall_mem_cons.mp h
      obtain ⟨hpoint, hsmall, hcapital, -⟩ := ne_of_isDigit hc
      refine .cons ?_ (ih hcs)
      rcases hpart with rfl | rfl | rfl <;> simp [step, hc, hpoint, hsmall, hcapital]

theorem path_isDigits (hpart : next = .whole ∨ next = .fraction ∨ next = .exponent)
    (hstep : ∀ d : Char, d.isDigit = true → part.step d = .extend next) (h : IsDigits cs) :
  Path part cs next
  := by
  obtain ⟨hne, hdigits⟩ := h
  cases cs with
  | nil => exact absurd rfl hne
  | cons c cs =>
      obtain ⟨hc, hcs⟩ := List.forall_mem_cons.mp hdigits
      exact .cons (hstep c hc) (path_digits hpart hcs)

theorem exists_path_whole (h : IsWhole cs) :
  ∃ next, Path .sign cs next ∧ (next = .zero ∨ next = .whole)
  := by
  cases h with
  | zero => exact ⟨.zero, .cons rfl .nil, .inl rfl⟩
  | @positive c cs hc hzero hcs =>
      have hstep : sign.step c = .extend .whole := by simp [step, hzero, hc]
      exact ⟨.whole, .cons hstep (path_digits (.inl rfl) hcs), .inr rfl⟩

theorem exists_path_fraction (h : IsFraction cs) (hpart : part = .zero ∨ part = .whole) :
  ∃ next, Path part cs next ∧ (next = .zero ∨ next = .whole ∨ next = .fraction)
  := by
  cases h with
  | none => exact ⟨part, .nil, by tauto⟩
  | some hdigits =>
      have hpoint : part.step '.' = .extend .point := by rcases hpart with rfl | rfl <;> rfl
      refine ⟨.fraction, .cons hpoint (path_isDigits (.inr (.inl rfl)) ?_ hdigits), by tauto⟩
      intro d hd
      simp [step, hd]

theorem exists_path_exponent (h : IsExponent cs)
    (hpart : part = .zero ∨ part = .whole ∨ part = .fraction) :
  ∃ next, Path part cs next ∧ next.mayEnd = true
  := by
  cases h with
  | none =>
      refine ⟨part, .nil, ?_⟩
      rcases hpart with rfl | rfl | rfl <;> rfl
  | @some m sign cs hmark hsign hdigits =>
      have hstep : part.step m = .extend .mark := by
        rcases hpart with rfl | rfl | rfl <;> rcases hmark with rfl | rfl <;> rfl
      refine ⟨.exponent, .cons hstep ?_, rfl⟩
      have hexponent : ∀ d : Char, d.isDigit = true → mark.step d = .extend .exponent := by
        intro d hd
        obtain ⟨-, -, -, hplus, hminus⟩ := ne_of_isDigit hd
        simp [step, hd, hplus, hminus]
      rcases hsign with rfl | rfl | rfl
      · exact path_isDigits (.inr (.inr rfl)) hexponent hdigits
      all_goals
        refine .cons rfl (path_isDigits (.inr (.inr rfl)) ?_ hdigits)
        intro d hd
        simp [step, hd]

end NumberPart

namespace Scanner

/-- The machine is inside a number, and the units before are the given ones. -/
structure InNumber (s : Scanner) (part : NumberPart) (before : List Char) (us : List Lexeme) :
    Prop where
  doing_eq : s.doing = .number part before
  units_eq : s.units = us

theorem InNumber.readAll {s : Scanner} {part next : NumberPart} {before : List Char}
    (h : s.InNumber part before us) (hpath : part.Path cs next) :
  (s.readAll cs).InNumber next (cs.reverse ++ before) us
  := by
  induction hpath generalizing s before with
  | nil => exact h
  | @cons part next last c cs hstep hs ih =>
      have hread : s.read (some c) = { s with doing := .number next (c :: before) } := by
        rw [read, h.doing_eq]
        dsimp only [NumberPart.glyph]
        rw [hstep]
        rfl
      have hnext : (s.step (some c)).InNumber next (c :: before) us := by
        rw [step, hread]
        exact ⟨rfl, h.units_eq⟩
      rw [readAll_cons, List.reverse_cons, List.append_assoc]
      exact ih hnext

theorem InNumber.rests {s : Scanner} {part : NumberPart} {before : List Char}
    (h : s.InNumber part before us) (hend : part.mayEnd = true) :
  s.Rests (us ++ [numberLexeme before.reverse])
  := .number h.doing_eq hend (by rw [h.units_eq])

theorem Blank.minus {s : Scanner} (h : s.Blank us) :
  (s.step (some '-')).InNumber .sign ['-'] us
  := by
  obtain ⟨index, start, doing, lone, done⟩ := s
  obtain ⟨rfl, rfl⟩ := h
  exact ⟨rfl, rfl⟩

/-- A digit begins a number as if there had been a sign. -/
theorem Blank.digit {s : Scanner} {next : NumberPart} (h : s.Blank us)
    (hc : NumberPart.sign.step c = .extend next) :
  (s.step (some c)).InNumber next [c] us
  := by
  have hdigit : c.isDigit = true := by
    by_contra hdigit
    have hzero : c ≠ '0' := by
      rintro rfl
      exact hdigit rfl
    simp [NumberPart.step, hzero, hdigit] at hc
  obtain ⟨hlow, hhigh⟩ : 48 ≤ c.toNat ∧ c.toNat ≤ 57 := Char.isDigit_iff_toNat.mp hdigit
  obtain ⟨index, start, doing, lone, done⟩ := s
  obtain ⟨rfl, rfl⟩ := h
  rw [← Char.ofNat_toNat c] at hc ⊢
  generalize c.toNat = n at hc hlow hhigh ⊢
  interval_cases n <;> cases hc <;> exact ⟨rfl, rfl⟩

end Scanner

/-- A number is read as its spelling says. -/
theorem lexes_number (h : IsNumber cs) :
  Lexes cs [numberLexeme cs]
  := by
  obtain @⟨sign, whole, fraction, exponent, hsign, hwhole, hfraction, hexponent⟩ := h
  obtain ⟨part₁, hpath₁, hpart₁⟩ := NumberPart.exists_path_whole hwhole
  obtain ⟨part₂, hpath₂, hpart₂⟩ := NumberPart.exists_path_fraction hfraction hpart₁
  obtain ⟨last, hpath₃, hend⟩ := NumberPart.exists_path_exponent hexponent hpart₂
  have hpath := hpath₁.append (hpath₂.append hpath₃)
  intro s vs hs
  rw [List.append_assoc]
  generalize whole ++ (fraction ++ exponent) = body at hpath ⊢
  rcases hsign with rfl | rfl
  · cases hpath with
    | nil => cases hend
    | cons hstep hrest =>
        have hrests := ((hs.digit hstep).readAll hrest).rests hend
        rw [List.reverse_append, List.reverse_reverse] at hrests
        exact hrests
  · have hrests := (hs.minus.readAll hpath).rests hend
    rw [List.reverse_append, List.reverse_reverse] at hrests
    exact hrests

end LogCourier.Json
