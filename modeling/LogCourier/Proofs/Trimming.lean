import LogCourier.Text.Blank
import Mathlib.Data.List.DropRight
import Mathlib.Tactic.Common

/-!
# Trimming

What trimming leaves of a text. A text between blank characters is what is left of it, if it neither
begins nor ends with one (`Text.trimChars_append`), and nothing else is (`Text.isCore_iff`). The
stem of a text is what is left of it without the copies of a character at its end
(`Text.isStem_iff`).
-/

namespace LogCourier.Text

variable {α : Type} {p : α → Bool} {l front back : List α}

/-! ### Lists without their ends -/

theorem dropWhile_eq_self (h : ∀ a ∈ l, p a = false) :
  l.dropWhile p = l
  := by
  cases l with
  | nil => rfl
  | cons a l => rw [List.dropWhile_cons_of_neg (Bool.eq_false_iff.mp (h a List.mem_cons_self))]

theorem dropTrailingWhile_eq :
  dropTrailingWhile p l = l.rdropWhile p
  := rfl

/-- What is dropped at the end is all that was added there, if the list before does not end so. -/
theorem dropTrailingWhile_append (hback : ∀ a ∈ back, p a = true)
    (hl : ∀ a ∈ l.getLast?, p a = false) :
  dropTrailingWhile p (l ++ back) = l
  := by
  rw [dropTrailingWhile_eq]
  induction back using List.reverseRecOn with
  | nil =>
      rw [List.append_nil, List.rdropWhile_eq_self_iff]
      intro hne
      rw [hl _ (List.getLast_mem_getLast? hne)]
      exact Bool.false_ne_true
  | append_singleton back a ih =>
      rw [List.forall_mem_append, List.forall_mem_singleton] at hback
      rw [← List.append_assoc, List.rdropWhile_concat_pos _ _ _ hback.2]
      apply ih hback.1

/-! ### Blank characters -/

variable {cs before after : List Char}

theorem isBlank_of_isDigit {c : Char} (h : c.isDigit = true) :
  isBlank c = false
  := by
  have hrange : 48 ≤ c.toNat ∧ c.toNat ≤ 57 := Char.isDigit_iff_toNat.mp h
  simp only [isBlank, Bool.or_eq_false_iff, Bool.and_eq_false_iff, beq_eq_false_iff_ne,
    decide_eq_false_iff_not]
  omega

/-- Of a text between blank characters the text is left, if it does not begin or end with one. -/
theorem trimChars_append (hbefore : ∀ c ∈ before, isBlank c = true)
    (hafter : ∀ c ∈ after, isBlank c = true) (hfirst : ∀ c ∈ cs.head?, isBlank c = false)
    (hlast : ∀ c ∈ cs.getLast?, isBlank c = false) :
  trimChars (before ++ cs ++ after) = cs
  := by
  rw [trimChars, List.append_assoc, List.dropWhile_append_of_pos hbefore]
  cases cs with
  | nil =>
      rw [List.nil_append, List.dropWhile_eq_nil_iff.mpr hafter]
      rfl
  | cons c cs =>
      rw [List.cons_append, List.dropWhile_cons_of_neg, ← List.cons_append]
      · apply dropTrailingWhile_append hafter hlast
      · rw [hfirst c rfl]
        exact Bool.false_ne_true

/-- The characters begin and end with blank ones, and the core is what stands between them, which
neither begins nor ends with one. -/
def IsCore (cs core : List Char) : Prop :=
  ∃ before after, cs = before ++ core ++ after
    ∧ (∀ c ∈ before, isBlank c = true) ∧ (∀ c ∈ after, isBlank c = true)
    ∧ (∀ c ∈ core.head?, isBlank c = false) ∧ (∀ c ∈ core.getLast?, isBlank c = false)

/-- A text has one core, which is what trimming leaves of it. -/
theorem isCore_iff {core : List Char} :
  IsCore cs core ↔ core = trimChars cs
  := by
  constructor
  · rintro ⟨before, after, rfl, hbefore, hafter, hfirst, hlast⟩
    rw [trimChars_append hbefore hafter hfirst hlast]
  · rintro rfl
    let rest := cs.dropWhile isBlank
    refine ⟨cs.takeWhile isBlank, rest.rtakeWhile isBlank, ?_, fun _ => List.mem_takeWhile_imp,
      fun _ => List.mem_rtakeWhile_imp, ?_, ?_⟩
    · rw [List.append_assoc, trimChars, dropTrailingWhile_eq, List.rdropWhile_append_rtakeWhile,
        List.takeWhile_append_dropWhile]
    · -- what is left begins like the text without the blank characters at its beginning
      intro c hc
      obtain ⟨tail, htail⟩ : trimChars cs <+: rest := List.rdropWhile_prefix isBlank rest
      have hrest : rest.head? = some c := by
        rw [← htail, List.head?_append, hc, Option.some_or]
      have hnot := List.head?_dropWhile_not isBlank cs
      rwa [hrest] at hnot
    · intro c hc
      obtain ⟨hne, rfl⟩ := List.mem_getLast?_eq_getLast hc
      apply Bool.eq_false_iff.mpr
      apply List.rdropWhile_last_not isBlank rest hne

/-! ### Stems -/

variable {c : Char} {s stem : String}

/-- The stem is the text without the copies of `c` at its end. -/
def IsStem (c : Char) (s stem : String) : Prop :=
  (∃ k, s.toList = stem.toList ++ List.replicate k c) ∧ stem.toList.getLast? ≠ some c

/-- A text has one stem, which is what is left when the copies of the character are dropped. -/
theorem isStem_iff :
  IsStem c s stem ↔ stem = dropTrailing c s
  := by
  constructor
  · rintro ⟨⟨k, hs⟩, hlast⟩
    rw [dropTrailing, hs, dropTrailingWhile_append, String.ofList_toList]
    · intro a ha
      rw [List.eq_of_mem_replicate ha, beq_self_eq_true]
    · intro a ha
      apply beq_eq_false_iff_ne.mpr
      rintro rfl
      exact hlast ha
  · rintro rfl
    rw [IsStem, dropTrailing, String.toList_ofList, dropTrailingWhile_eq]
    constructor
    · use (s.toList.rtakeWhile (· == c)).length
      have hcopies : s.toList.rtakeWhile (· == c)
          = List.replicate (s.toList.rtakeWhile (· == c)).length c := by
        apply List.eq_replicate_length.mpr
        intro a ha
        have hc := List.mem_rtakeWhile_imp ha
        exact beq_iff_eq.mp hc
      rw [← hcopies, List.rdropWhile_append_rtakeWhile]
    · intro hlast
      have hmem := List.mem_getLast?_eq_getLast hlast
      obtain ⟨hne, heq⟩ := hmem
      apply List.rdropWhile_last_not (· == c) s.toList hne
      rw [← heq, beq_self_eq_true]

end LogCourier.Text
