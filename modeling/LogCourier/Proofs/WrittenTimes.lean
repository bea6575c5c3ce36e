import LogCourier.Failure
import LogCourier.Proofs.CalendarDays
import LogCourier.Proofs.TimeText
import LogCourier.QueryLog.Entry

/-!
# Times as they are written

A time as it is written in a row of the log (`WrittenTime`): a date, a clock time, the digits of a
fraction of a second, and how far the clock is ahead of UTC, which may be left out. The date and the
clock time are read back, in the strict notation if an offset follows
(`WrittenTime.zoned_clockBefore`) and in the looser one if nothing does
(`WrittenTime.plain_clockBefore`). So the text names the moment that was written
(`WrittenTime.moment_of_writes`), and the time of an entry with that timestamp is the number of
nanoseconds that the calendar and the clock make, counted day by day (`LogEntry.nanos_exact`).
-/

namespace LogCourier

open Timestamp (Zone digitsValue fractionChars)
open Decimal (padded)

/-- A date of the years 0 to 9999 and a clock time with the digits of a fraction of a second, and
how far the clock is ahead of UTC. -/
structure WrittenTime where
  date : Calendar.Date
  hour : Nat
  minute : Nat
  second : Nat
  fraction : List (Fin 10)
  zone : Zone
  year_nonneg : 0 ≤ date.year
  year_le : date.year ≤ 9999
  hour_le : hour ≤ 23
  minute_le : minute ≤ 59
  second_le : second ≤ 60

namespace WrittenTime

open Timestamp

variable {w : WrittenTime} {rest before after : List Char} {c : Char}

/-- The date and the clock time as they are written, with more characters after them. -/
def clockBefore (w : WrittenTime) (rest : List Char) : List Char :=
  padded 4 w.date.year.toNat ++ '-' :: (padded 2 w.date.month ++ '-' :: (padded 2 w.date.day
    ++ 'T' :: (padded 2 w.hour ++ ':' :: (padded 2 w.minute ++ ':' :: (padded 2 w.second
      ++ (fractionChars w.fraction ++ rest))))))

/-- The time as it is written. -/
def chars (w : WrittenTime) : List Char :=
  w.clockBefore w.zone.chars

/-- The moment of the date and the clock time, if the clock is ahead of UTC by some seconds. -/
def moment (w : WrittenTime) (seconds : Int) : Moment where
  year := w.date.year
  month := w.date.month
  day := w.date.day
  hour := w.hour
  minute := w.minute
  second := w.second
  nanosecond := digitsValue 100000000 w.fraction
  offset := seconds

theorem hasDate_moment (w : WrittenTime) (seconds : Int) :
  (w.moment seconds).HasDate
  := ⟨w.date.one_le_month, w.date.month_le, w.date.one_le_day, w.date.day_le⟩

theorem hasTime_moment (w : WrittenTime) (seconds : Int) :
  (w.moment seconds).HasTime
  := ⟨w.hour_le, w.minute_le, w.second_le⟩

theorem day_le (w : WrittenTime) :
  w.date.day ≤ 31
  := Nat.le_trans w.date.day_le (Calendar.daysInMonth_bounds _ _).2

theorem year_toNat (w : WrittenTime) :
  (w.date.year.toNat : Int) = w.date.year
  := Int.toNat_of_nonneg w.year_nonneg

/-- The numbers of a time have no more digits than are written. -/
theorem widths (w : WrittenTime) :
  w.date.year.toNat < 10 ^ 4 ∧ w.date.month < 10 ^ 2 ∧ w.date.day < 10 ^ 2 ∧ w.hour < 10 ^ 2
    ∧ w.minute < 10 ^ 2 ∧ w.second < 10 ^ 2
  := by
  have hyear := w.year_le
  have hmonth := w.date.month_le
  have hday := w.day_le
  have hhour := w.hour_le
  have hminute := w.minute_le
  have hsecond := w.second_le
  omega

/-- The strict notation reads the date and the clock time, if an offset and nothing else follows. -/
theorem zoned_clockBefore (hrest : ∀ c ∈ rest.head?, c.isDigit = false ∧ c ≠ '.') :
  zoned (w.clockBefore rest)
    = (offset rest).bind fun (seconds, rest) =>
        if rest.isEmpty then some (w.moment seconds) else none
  := by
  obtain ⟨hyear, hmonth, hday, hhour, hminute, hsecond⟩ := w.widths
  rw [clockBefore, zoned]
  refine (bind_of_eq_some (exactly_padded (by decide) hyear)).trans ?_
  refine (bind_of_eq_some (oneOf_cons (by decide))).trans ?_
  refine (bind_of_eq_some (exactly_padded (by decide) hmonth)).trans ?_
  refine (bind_of_eq_some (oneOf_cons (by decide))).trans ?_
  refine (bind_of_eq_some (exactly_padded (by decide) hday)).trans ?_
  refine (bind_of_eq_some (oneOf_cons (by decide))).trans ?_
  refine (bind_of_eq_some (exactly_padded (by decide) hhour)).trans ?_
  refine (bind_of_eq_some (oneOf_cons (by decide))).trans ?_
  refine (bind_of_eq_some (exactly_padded (by decide) hminute)).trans ?_
  refine (bind_of_eq_some (oneOf_cons (by decide))).trans ?_
  refine (bind_of_eq_some (exactly_padded (by decide) hsecond)).trans ?_
  refine (bind_of_eq_some (congrArg Except.toOption (fraction_append hrest))).trans ?_
  dsimp only
  cases offset rest with
  | none => rfl
  | some found =>
      obtain ⟨seconds, rest⟩ := found
      cases rest with
      | cons c rest => rfl
      | nil =>
          have hm : (w.moment seconds).HasDate ∧ (w.moment seconds).HasTime :=
            ⟨w.hasDate_moment seconds, w.hasTime_moment seconds⟩
          rw [year_toNat]
          change (guard ((w.moment seconds).HasDate ∧ (w.moment seconds).HasTime) >>= fun _ =>
            some (w.moment seconds)) = some (w.moment seconds)
          rw [guard, if_pos hm]
          rfl

/-- The looser notation reads the date and the clock time, if nothing follows. -/
theorem plain_clockBefore :
  plain (w.clockBefore []) = .ok (w.moment 0, [])
  := by
  obtain ⟨hyear, hmonth, hday, hhour, hminute, hsecond⟩ := w.widths
  rw [clockBefore, plain]
  refine (bind_of_ok (year_padded hyear)).trans ?_
  refine (bind_of_ok literal_cons).trans ?_
  refine (bind_of_ok (field_padded hmonth w.date.one_le_month w.date.month_le)).trans ?_
  refine (bind_of_ok literal_cons).trans ?_
  refine (bind_of_ok (field_padded hday w.date.one_le_day w.day_le)).trans ?_
  refine (bind_of_ok literal_cons).trans ?_
  refine (bind_of_ok (field_padded hhour (Nat.zero_le _) w.hour_le)).trans ?_
  refine (bind_of_ok literal_cons).trans ?_
  refine (bind_of_ok (field_padded hminute (Nat.zero_le _) w.minute_le)).trans ?_
  refine (bind_of_ok literal_cons).trans ?_
  refine (bind_of_ok (field_padded hsecond (Nat.zero_le _) w.second_le)).trans ?_
  refine (bind_of_ok (fraction_append (Zone.head_chars .absent))).trans ?_
  refine (bind_of_ok get_eq).trans ?_
  have hyears : firstYear ≤ w.date.year ∧ w.date.year ≤ lastYear :=
    ⟨Int.le_trans (by decide) w.year_nonneg, Int.le_trans w.year_le (by decide)⟩
  rw [year_toNat]
  change (if (w.moment 0).HasDate ∧ firstYear ≤ w.date.year ∧ w.date.year ≤ lastYear
    then (pure (w.moment 0) : Scan Moment) else throw .outOfRange) [] = _
  rw [if_pos ⟨w.hasDate_moment 0, hyears⟩]
  rfl

/-! ### The moment of a written time -/

/-- The text is the time as it is written, perhaps with blank characters around it. -/
def Writes (w : WrittenTime) (text : String) : Prop :=
  ∃ before after, text = .ofList (before ++ w.chars ++ after)
    ∧ (∀ c ∈ before, Text.isBlank c = true) ∧ ∀ c ∈ after, Text.isBlank c = true

theorem isPart_or_eq_of_mem (h : c ∈ w.chars) :
  IsPart c ∨ w.zone = .zulu ∧ c = 'Z'
  := by
  simp only [chars, clockBefore, List.mem_append, List.mem_cons] at h
  rcases h with h | rfl | h | rfl | h | rfl | h | rfl | h | rfl | h | h | h
  all_goals first
    | exact .inl (.inl (Decimal.isDigit_of_mem_padded h))
    | exact .inl (isPart_of_mem_fractionChars h)
    | exact Zone.isPart_or_eq_of_mem h
    | exact .inl (.inr (by decide))

/-- Only the blank characters around a written time are trimmed. -/
theorem trimChars_eq (hbefore : ∀ c ∈ before, Text.isBlank c = true)
    (hafter : ∀ c ∈ after, Text.isBlank c = true) :
  Text.trimChars (before ++ w.chars ++ after) = w.chars
  := by
  have hfree : ∀ c ∈ w.chars, Text.isBlank c = false := by
    intro c hc
    rcases isPart_or_eq_of_mem hc with h | ⟨-, rfl⟩
    · apply h.isBlank
    · decide
  apply Text.trimChars_append hbefore hafter
  · intro c hc
    apply hfree c (List.mem_of_mem_head? hc)
  · intro c hc
    apply hfree c (List.mem_of_mem_getLast? hc)

theorem clockBefore_append (w : WrittenTime) (front back : List Char) :
  w.clockBefore front ++ back = w.clockBefore (front ++ back)
  := by
  simp only [clockBefore, List.append_assoc, List.cons_append]

/-- The letter for UTC is spelled out, and nothing else changes. -/
theorem spellZulu_chars :
  spellZulu w.chars = w.clockBefore w.zone.spelled.chars
  := by
  by_cases hz : w.zone = .zulu
  · have hchars : w.chars = w.clockBefore [] ++ ['Z'] := by
      rw [clockBefore_append, chars, hz]
      rfl
    rw [hchars, spellZulu_concat, clockBefore_append, hz]
    rfl
  · rw [Zone.spelled_of_ne_zulu hz, spellZulu_of_not_mem]
    · rfl
    · intro hmem
      rcases isPart_or_eq_of_mem hmem with h | ⟨h, -⟩
      · apply not_isPart_zulu h
      · apply hz h

/-- The moment that a text names is the one that is written there. -/
theorem moment_of_writes {text : String} (h : w.Writes text) :
  Timestamp.moment text = .ok (w.moment w.zone.seconds)
  := by
  obtain ⟨before, after, rfl, hbefore, hafter⟩ := h
  rw [Timestamp.moment, String.toList_ofList, trimChars_eq hbefore hafter, spellZulu_chars,
    ← Zone.seconds_spelled]
  cases hz : w.zone.spelled with
  | zulu => exact absurd hz w.zone.spelled_ne_zulu
  | offset isBehind hours minutes hhours hminutes =>
      rw [zoned_clockBefore (Zone.head_chars _), Zone.offset_chars]
      rfl
  | absent =>
      -- without an offset the strict notation fails, and the looser one is tried
      have hzoned : zoned (w.clockBefore (Zone.chars .absent)) = none :=
        zoned_clockBefore (Zone.head_chars .absent)
      rw [hzoned]
      change (plain (w.clockBefore [])).map Prod.fst = _
      rw [plain_clockBefore]
      rfl

/-! ### The nanoseconds of a written time -/

/-- The nanoseconds from the start of 1970 in UTC to a written time, if its date is the given number
of days after the first day of 1970. -/
def nanoseconds (w : WrittenTime) (days : Int) : Int :=
  1000000000 * (86400 * days + 3600 * w.hour + 60 * w.minute + w.second - w.zone.seconds)
    + digitsValue 100000000 w.fraction

/-- A number that a signed integer of 64 bits can hold. -/
def Fits (n : Int) : Prop :=
  -2 ^ 63 ≤ n ∧ n < 2 ^ 63

variable {text : String} {e e' : LogEntry} {z z' : Zone} {days : Int}

instance (n : Int) : Decidable (Fits n) :=
  inferInstanceAs (Decidable (_ ∧ _))

/-- A written time is read as its nanoseconds, if these fit. -/
theorem nanos_of_writes (h : w.Writes text) :
  Timestamp.nanos text
    = if Fits (w.nanoseconds w.date.days) then .ok (w.nanoseconds w.date.days)
      else .error (.outOfRange text)
  := by
  rw [Timestamp.nanos, moment_of_writes h]
  rfl

/-- The same date and clock time in another zone. -/
def inZone (w : WrittenTime) (z : Zone) : WrittenTime :=
  { w with zone := z }

theorem nanoseconds_inZone (h : z.seconds = z'.seconds) :
  (w.inZone z).nanoseconds days = (w.inZone z').nanoseconds days
  := by
  rw [nanoseconds, nanoseconds]
  change _ * (_ - z.seconds) + _ = _ * (_ - z'.seconds) + _
  rw [h]
  rfl

/-- The years that the numbers of nanoseconds that fit lead to have four digits. -/
theorem year_bounds {d : Calendar.Date} (hge : -106752 ≤ d.days) (hle : d.days ≤ 106751) :
  0 ≤ d.year ∧ d.year ≤ 9999
  := by
  have hbounds := d.days_bounds
  rw [Calendar.daysBeforeYear, Calendar.daysBeforeYear, Calendar.daysBeforeYear] at hbounds
  omega

/-- Every number of nanoseconds that fits is the one of a time in UTC. -/
theorem exists_nanoseconds_eq {n : Int} (h : Fits n) :
  ∃ w : WrittenTime, w.zone = .zulu ∧ w.second ≤ 59 ∧ w.fraction.length = 9
    ∧ w.nanoseconds w.date.days = n
  := by
  obtain ⟨hge, hlt⟩ := h
  -- quotients are rounded down, so what is left of a day counts from its start, also before 1970
  obtain ⟨d, hd⟩ := Calendar.exists_counts (n / 86400000000000)
  obtain ⟨s, hs⟩ := Int.eq_ofNat_of_zero_le (a := n % 86400000000000 / 1000000000) (by omega)
  obtain ⟨f, hf⟩ := Int.eq_ofNat_of_zero_le (a := n % 1000000000) (by omega)
  have hplaces : f < 10 ^ 9 := by omega
  obtain ⟨fs, hlength, hvalue⟩ := exists_digits hplaces
  have hdays := hd.eq_days
  have hyear := year_bounds (d := d) (by omega) (by omega)
  have hhour : s / 3600 ≤ 23 := by omega
  have hminute : s / 60 % 60 ≤ 59 := by omega
  have hsecond : s % 60 ≤ 59 := by omega
  refine ⟨⟨d, _, _, _, fs, .zulu, hyear.1, hyear.2, hhour, hminute, Nat.le_succ_of_le hsecond⟩, rfl,
    hsecond, hlength, ?_⟩
  change 1000000000 * (86400 * d.days + 3600 * (s / 3600 : Nat) + 60 * (s / 60 % 60 : Nat)
    + (s % 60 : Nat) - 0) + (digitsValue (10 ^ 9 / 10) fs : Nat) = n
  rw [hvalue]
  omega

end WrittenTime

/-! ### Entries with a written time -/

namespace LogEntry

open Calendar (Counts)
open WrittenTime (Fits)

variable {w : WrittenTime} {days : Int} {e : LogEntry}

theorem nanos_eq (hdays : Counts w.date days) (h : w.Writes e.timestamp) :
  e.nanos = if Fits (w.nanoseconds days) then .ok (w.nanoseconds days)
    else .error (.outOfRange e.timestamp)
  := by
  rw [hdays.eq_days]
  apply WrittenTime.nanos_of_writes h

theorem intText_nanos (hdays : Counts w.date days) (h : w.Writes e.timestamp)
    (hfits : Fits (w.nanoseconds days)) :
  e.nanos.map Decimal.intText = .ok (toString (w.nanoseconds days))
  := by
  rw [nanos_eq hdays h, if_pos hfits, ← Decimal.intText_eq]
  rfl

/-- **The time of an entry is exact.** Whatever date of the years 0 to 9999 is written, with any
clock time, fraction of a second and zone, and blank characters around it: the time of the entry is
the number of nanoseconds that the count of days, the clock and the offset make, in decimal, if a
signed integer of 64 bits holds it, and otherwise the timestamp is invalid. So all the ways to write
UTC agree, and every such integer is read from a time in UTC with nine digits of a fraction. -/
theorem nanos_exact :
  (∀ (w : WrittenTime) (days : Int) (e : LogEntry), Counts w.date days → w.Writes e.timestamp →
      (Fits (w.nanoseconds days) →
        e.nanos.map Decimal.intText = .ok (toString (w.nanoseconds days)))
      ∧ (¬ Fits (w.nanoseconds days) →
        ∃ m, e.nanos = .error m
          ∧ m.failure = .invalidTimestamp ("'" ++ e.timestamp ++ "' is out of range")))
    ∧ (∀ (w : WrittenTime) (z z' : Timestamp.Zone) (e e' : LogEntry), z.seconds = 0 →
      z'.seconds = 0 → (w.inZone z).Writes e.timestamp → (w.inZone z').Writes e'.timestamp →
      e.nanos.toOption = e'.nanos.toOption)
    ∧ ∀ n : Int64, ∃ w : WrittenTime, w.zone = .zulu ∧ w.second ≤ 59 ∧ w.fraction.length = 9
      ∧ ∀ e : LogEntry, w.Writes e.timestamp →
        e.nanos.map Decimal.intText = .ok (toString n.toInt)
  := by
  refine ⟨?_, ?_, ?_⟩
  · intro w days e hdays h
    refine ⟨intText_nanos hdays h, fun hfits => ⟨.outOfRange e.timestamp, ?_, rfl⟩⟩
    rw [nanos_eq hdays h, if_neg hfits]
  · intro w z z' e e' hz hz' h h'
    have hdays : Counts w.date w.date.days := Calendar.counts_iff.mpr rfl
    rw [nanos_eq (w := w.inZone z) hdays h, nanos_eq (w := w.inZone z') hdays h',
      WrittenTime.nanoseconds_inZone (hz.trans hz'.symm)]
    split <;> rfl
  · intro n
    obtain ⟨w, hzone, hsecond, hlength, hn⟩ :=
      WrittenTime.exists_nanoseconds_eq ⟨n.le_toInt, n.toInt_lt⟩
    refine ⟨w, hzone, hsecond, hlength, ?_⟩
    intro e h
    rw [intText_nanos (Calendar.counts_iff.mpr rfl) h, hn]
    rw [hn]
    exact ⟨n.le_toInt, n.toInt_lt⟩

/-- The earliest date with a time that fits. -/
def earliestDate : Calendar.Date :=
  ⟨1677, 9, 21, by decide, by decide, by decide, by decide⟩

/-- A time of that date, at an hour, with the minute and the second of the earliest time that fits,
and with the digits of a fraction, in a zone. -/
def earliestTime (hour : Nat) (hour_le : hour ≤ 23) (fs : List (Fin 10)) (z : Timestamp.Zone) :
    WrittenTime where
  date := earliestDate
  hour := hour
  minute := 12
  second := 43
  fraction := fs
  zone := z
  year_nonneg := by decide
  year_le := by decide
  hour_le := hour_le
  minute_le := by decide
  second_le := by decide

/-- An entry with the given timestamp. -/
def entryAt (timestamp : String) : LogEntry where
  row := 1
  timestamp := timestamp
  clientIp := "192.0.2.7"
  protocol := "Udp"
  responseType := "Recursive"
  rcode := "NoError"
  qname := "example.com"
  qtype := "A"
  qclass := "IN"
  answer := none

theorem nanos_exact_earliest :
  (entryAt " 1677-09-21T02:12:43.145224192+02:00\n").nanos.map Decimal.intText
      = .ok "-9223372036854775808"
    ∧ (∃ m, (entryAt "1677-09-21T00:12:43.145224191Z").nanos = .error m
      ∧ m.failure = .invalidTimestamp ("'1677-09-21T00:12:43.145224191Z' is out of range"))
    ∧ (entryAt "1677-09-21T00:12:43.145224192Z").nanos.toOption
      = (entryAt "1677-09-21T00:12:43.145224192").nanos.toOption
  := by
  have hdays : Counts earliestDate (-106752) := Calendar.counts_iff.mpr (by decide)
  let ahead := earliestTime 2 (by decide) [1, 4, 5, 2, 2, 4, 1, 9, 2]
    (.offset false 2 0 (by decide) (by decide))
  let first := earliestTime 0 (by decide) [1, 4, 5, 2, 2, 4, 1, 9, 2]
  let last := earliestTime 0 (by decide) [1, 4, 5, 2, 2, 4, 1, 9, 1] .zulu
  have hahead : ahead.Writes " 1677-09-21T02:12:43.145224192+02:00\n" :=
    ⟨[' '], ['\n'], by decide, List.forall_mem_singleton.mpr rfl,
      List.forall_mem_singleton.mpr rfl⟩
  have hlast : last.Writes "1677-09-21T00:12:43.145224191Z" :=
    ⟨[], [], by decide, List.forall_mem_nil _, List.forall_mem_nil _⟩
  have hzulu : (first .zulu).Writes "1677-09-21T00:12:43.145224192Z" :=
    ⟨[], [], by decide, List.forall_mem_nil _, List.forall_mem_nil _⟩
  have hplain : (first .absent).Writes "1677-09-21T00:12:43.145224192" :=
    ⟨[], [], by decide, List.forall_mem_nil _, List.forall_mem_nil _⟩
  refine ⟨?_, ?_, ?_⟩
  · exact (nanos_exact.1 _ _ (entryAt _) hdays hahead).1 (by decide)
  · exact (nanos_exact.1 _ _ (entryAt _) hdays hlast).2 (by decide)
  · exact nanos_exact.2.1 (first .zulu) .zulu .absent (entryAt _) (entryAt _) rfl rfl hzulu hplain

end LogEntry

end LogCourier
