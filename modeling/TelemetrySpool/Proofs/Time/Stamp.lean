import TelemetrySpool.Text.Split
import TelemetrySpool.Time.Instant

/-!
# What a stamp tells

A stamp consists of digits, underscores and the sign of an unusual year, and it tells the instant up
to the millisecond: the calendar can be counted back into days, and the leap second has a second of
its own. Two instants that differ in their milliseconds have different stamps.
-/

namespace TelemetrySpool

namespace Digits

theorem isDigit_of_mem_padded {width n : Nat} {c : Char} (h : c ∈ padded width n) : c.isDigit := by
  rcases List.mem_append.1 h with hz | hd
  · rw [List.eq_of_mem_replicate hz]
    decide
  · exact isDigit_of_mem_ofNat hd

theorem length_padded_of_lt {n : Nat} {width : Nat} (hw : 0 < width)
    (h : n < Nat.pow 10 width) : (padded width n).length = width := by
  have hl : (ofNat n).length ≤ width := (Nat.length_toDigits_le_iff (by decide) hw).2 h
  simp only [padded, List.length_append, List.length_replicate]
  omega

/-- Zeros in front of a number do not change what is read. -/
theorem readFrom_replicate_zero (count : Nat) (rest : List Char) :
    readFrom 0 (List.replicate count '0' ++ rest) = readFrom 0 rest := by
  induction count with
  | zero => rfl
  | succ count ih => exact ih

theorem readFrom_padded (width n : Nat) : readFrom 0 (padded width n) = some n := by
  rw [padded, readFrom_replicate_zero, readFrom_of_isDigit fun _ => isDigit_of_mem_ofNat, ofNat,
    Nat.ofDigitChars_ten_toDigits]

/-- A padded number tells the number. -/
theorem padded_inj {width n m : Nat} (h : padded width n = padded width m) : n = m := by
  have hn := readFrom_padded width n
  rw [h, readFrom_padded] at hn
  exact (Option.some.inj hn).symm

end Digits

namespace Date

/-- The days from 1 January 1970 to a date. -/
def toDays (date : Date) : Int :=
  let marchYear := if 3 ≤ date.month then date.year else date.year - 1
  let month := if 3 ≤ date.month then date.month - 3 else date.month + 9
  let yearOfEra := marchYear % 400
  marchYear / 400 * daysPerEra + 365 * yearOfEra + yearOfEra / 4 - yearOfEra / 100 +
    ((153 * month + 2) / 5 + date.day - 1 : Nat) - epochOffset

/-- The year and the day of an era count the days of the era. -/
theorem yearAndDay_spec {dayOfEra : Nat} (h : dayOfEra < daysPerEra) :
    (yearAndDay dayOfEra).1 < 400 ∧ (yearAndDay dayOfEra).2 ≤ 365 ∧
      365 * (yearAndDay dayOfEra).1 + (yearAndDay dayOfEra).1 / 4 + (yearAndDay dayOfEra).2 =
        dayOfEra + (yearAndDay dayOfEra).1 / 100 := by
  simp only [yearAndDay, daysPerEra] at h ⊢
  generalize hc : min (dayOfEra / 36524) 3 = century
  generalize hs : (dayOfEra - 36524 * century) / 1461 = span
  generalize hy : min ((dayOfEra - 36524 * century - 1461 * span) / 365) 3 = year
  have hspan : span ≤ 24 := by omega
  have hq : (100 * century + 4 * span + year) / 4 = 25 * century + span := by omega
  have hh : (100 * century + 4 * span + year) / 100 = century := by omega
  rw [hq, hh]
  omega

/-- The month and the day of a year count the days of the year. -/
theorem monthAndDay_spec {dayOfYear : Nat} (h : dayOfYear ≤ 365) :
    (monthAndDay dayOfYear).1 ≤ 11 ∧ (monthAndDay dayOfYear).2 ≤ 30 ∧
      (153 * (monthAndDay dayOfYear).1 + 2) / 5 + (monthAndDay dayOfYear).2 = dayOfYear := by
  simp only [monthAndDay]
  omega

theorem month_day_ofDays_le (days : Int) : (ofDays days).month ≤ 12 ∧ (ofDays days).day ≤ 31 := by
  have he : ((days + epochOffset) % (daysPerEra : Int)).toNat < daysPerEra := by
    simp only [daysPerEra]
    omega
  have hy := yearAndDay_spec he
  have hm := monthAndDay_spec hy.2.1
  simp only [ofDays]
  split
  · exact ⟨by dsimp only; omega, by dsimp only; omega⟩
  · exact ⟨by dsimp only; omega, by dsimp only; omega⟩

/-- The days to the date of a year that begins in March, a month and a day counted from 0. -/
theorem toDays_march (era : Int) {yearOfEra month : Nat} (day : Nat) (hy : yearOfEra < 400)
    (hm : month ≤ 11) :
    (if month < 10 then (⟨yearOfEra + 400 * era, month + 3, day + 1⟩ : Date)
      else ⟨yearOfEra + 400 * era + 1, month - 9, day + 1⟩).toDays =
      era * daysPerEra +
        (365 * yearOfEra + yearOfEra / 4 + ((153 * month + 2) / 5 + day) : Nat) -
        (yearOfEra / 100 : Nat) - epochOffset := by
  have hd : ((yearOfEra : Int) + 400 * era) / 400 = era := by omega
  have hr : ((yearOfEra : Int) + 400 * era) % 400 = yearOfEra := by omega
  by_cases h : month < 10
  · have h3 : 3 ≤ month + 3 := by omega
    simp only [h, if_true, toDays, h3, hd, hr, Nat.add_sub_cancel]
    omega
  · have h3 : ¬ 3 ≤ month - 9 := by omega
    have hb : month - 9 + 9 = month := by omega
    have hs : (yearOfEra : Int) + 400 * era + 1 - 1 = yearOfEra + 400 * era := by omega
    simp only [h, if_false, toDays, h3, hs, hb, hd, hr]
    omega

/-- A date counts back to the day that it was made from. -/
theorem toDays_ofDays (days : Int) : (ofDays days).toDays = days := by
  have he : ((days + epochOffset) % (daysPerEra : Int)).toNat < daysPerEra := by
    simp only [daysPerEra]
    omega
  obtain ⟨hy, hd, hs⟩ := yearAndDay_spec he
  obtain ⟨hm, _, hs'⟩ := monthAndDay_spec hd
  rw [ofDays, toDays_march _ _ hy hm, hs']
  simp only [daysPerEra] at *
  omega

/-- Two days have different dates. -/
theorem ofDays_inj {a b : Int} (h : ofDays a = ofDays b) : a = b := by
  rw [← toDays_ofDays a, h, toDays_ofDays]

end Date

namespace Instant

/-- The date part of a stamp. -/
def dateText (t : Instant) : List Char :=
  yearText t.date.year ++ Digits.padded 2 t.date.month ++ Digits.padded 2 t.date.day

/-- The time part of a stamp. -/
def timeText (t : Instant) : List Char :=
  Digits.padded 2 (t.secondOfDay / 3600) ++ Digits.padded 2 (t.secondOfDay / 60 % 60) ++
    Digits.padded 2 t.second

/-- A stamp is a date, a time and milliseconds between underscores. -/
theorem toList_stamp (t : Instant) :
    t.stamp.toList = t.dateText ++ '_' :: (t.timeText ++ '_' :: Digits.padded 3 t.millisecond) := by
  simp only [stamp, String.toList_ofList, dateText, timeText, List.append_assoc]

theorem mem_yearText {year : Int} {c : Char} (h : c ∈ yearText year) :
    c.isDigit ∨ c = '+' ∨ c = '-' := by
  unfold yearText at h
  split at h
  · exact Or.inl (Digits.isDigit_of_mem_padded h)
  · rcases List.mem_cons.1 h with rfl | h
    · split
      · exact Or.inr (Or.inr rfl)
      · exact Or.inr (Or.inl rfl)
    · exact Or.inl (Digits.isDigit_of_mem_padded h)

theorem mem_dateText {t : Instant} {c : Char} (h : c ∈ t.dateText) :
    c.isDigit ∨ c = '+' ∨ c = '-' := by
  simp only [dateText, List.mem_append] at h
  rcases h with (h | h) | h
  · exact mem_yearText h
  · exact Or.inl (Digits.isDigit_of_mem_padded h)
  · exact Or.inl (Digits.isDigit_of_mem_padded h)

theorem isDigit_of_mem_timeText {t : Instant} {c : Char} (h : c ∈ t.timeText) : c.isDigit := by
  simp only [timeText, List.mem_append] at h
  rcases h with (h | h) | h <;> exact Digits.isDigit_of_mem_padded h

/-- The characters of a stamp. -/
theorem mem_stamp {t : Instant} {c : Char} (h : c ∈ t.stamp.toList) :
    c.isDigit ∨ c = '+' ∨ c = '-' ∨ c = '_' := by
  rw [toList_stamp, List.mem_append, List.mem_cons, List.mem_append, List.mem_cons] at h
  rcases h with h | rfl | h | rfl | h
  · rcases mem_dateText h with h | h | h
    · exact Or.inl h
    · exact Or.inr (Or.inl h)
    · exact Or.inr (Or.inr (Or.inl h))
  · exact Or.inr (Or.inr (Or.inr rfl))
  · exact Or.inl (isDigit_of_mem_timeText h)
  · exact Or.inr (Or.inr (Or.inr rfl))
  · exact Or.inl (Digits.isDigit_of_mem_padded h)

theorem underscore_notMem_dateText (t : Instant) : '_' ∉ t.dateText := by
  intro h
  rcases mem_dateText h with h | h | h
  · exact absurd h (by decide)
  · exact absurd h (by decide)
  · exact absurd h (by decide)

theorem underscore_notMem_timeText (t : Instant) : '_' ∉ t.timeText := fun h =>
  absurd (isDigit_of_mem_timeText h) (by decide)

/-- A year is told by its text. -/
theorem yearText_inj {a b : Int} (h : yearText a = yearText b) : a = b := by
  have hpad : ∀ {n : Nat} {c : Char}, c = '+' ∨ c = '-' → ∀ rest : List Char,
      Digits.padded 4 n ≠ c :: rest := by
    intro n c hc rest he
    have hd : c.isDigit := Digits.isDigit_of_mem_padded (he ▸ List.mem_cons_self)
    rcases hc with rfl | rfl <;> exact absurd hd (by decide)
  have hsign : ∀ y : Int,
      (if y < 0 then '-' else '+') = '+' ∨ (if y < 0 then '-' else '+') = '-' := by
    intro y
    split
    · exact Or.inr rfl
    · exact Or.inl rfl
  by_cases ha : 0 ≤ a ∧ a ≤ 9999
  · by_cases hb : 0 ≤ b ∧ b ≤ 9999
    · rw [yearText, yearText, if_pos ha, if_pos hb] at h
      have := Digits.padded_inj h
      omega
    · rw [yearText, yearText, if_pos ha, if_neg hb] at h
      exact absurd h (hpad (hsign b) _)
  · by_cases hb : 0 ≤ b ∧ b ≤ 9999
    · rw [yearText, yearText, if_neg ha, if_pos hb] at h
      exact absurd h.symm (hpad (hsign a) _)
    · rw [yearText, yearText, if_neg ha, if_neg hb] at h
      obtain ⟨hs, hn⟩ := List.cons.inj h
      have := Digits.padded_inj hn
      by_cases ha' : a < 0 <;> by_cases hb' : b < 0 <;> simp [ha', hb'] at hs <;> omega

/-- A date is told by its text. -/
theorem date_eq_of_dateText {t u : Instant} (h : t.dateText = u.dateText) : t.date = u.date := by
  have ht := Date.month_day_ofDays_le (t.seconds / 86400)
  have hu := Date.month_day_ofDays_le (u.seconds / 86400)
  have hw : ∀ {n : Nat}, n ≤ 31 → (Digits.padded 2 n).length = 2 := fun {n} hn =>
    Digits.length_padded_of_lt (by decide) (show n < 100 by omega)
  obtain ⟨hym, hd⟩ := List.append_inj' h ((hw ht.2).trans (hw hu.2).symm)
  obtain ⟨hy, hm⟩ := List.append_inj' hym
    ((hw (Nat.le_trans ht.1 (by decide))).trans (hw (Nat.le_trans hu.1 (by decide))).symm)
  have hyear := yearText_inj hy
  have hmonth := Digits.padded_inj hm
  have hday := Digits.padded_inj hd
  cases hdt : t.date
  cases hdu : u.date
  simp_all

/-- The second of the day and the leap second are told by the time part. -/
theorem second_eq_of_timeText {t u : Instant} (h : t.timeText = u.timeText) :
    t.secondOfDay = u.secondOfDay ∧ t.nanos / 1000000000 = u.nanos / 1000000000 := by
  have hsec : ∀ v : Instant, v.second < 100 := fun v => by
    have := v.nanos_lt
    simp only [second]
    omega
  have hw : ∀ {n : Nat}, n < 100 → (Digits.padded 2 n).length = 2 := fun hn =>
    Digits.length_padded_of_lt (by decide) hn
  have hday : ∀ v : Instant, v.secondOfDay < 86400 := fun v => by
    simp only [secondOfDay]
    omega
  obtain ⟨hhm, hs⟩ := List.append_inj' h ((hw (hsec t)).trans (hw (hsec u)).symm)
  obtain ⟨hh, hm⟩ := List.append_inj' hhm
    ((hw (by omega)).trans (hw (n := u.secondOfDay / 60 % 60) (by omega)).symm)
  have hours := Digits.padded_inj hh
  have minutes := Digits.padded_inj hm
  have seconds := Digits.padded_inj hs
  -- Only the last second of a minute is followed by a leap second.
  have hleap : ∀ v : Instant, v.nanos / 1000000000 = 0 ∨
      v.nanos / 1000000000 = 1 ∧ v.secondOfDay % 60 = 59 := fun v => by
    have hlt := v.nanos_lt
    have hend := v.leap_at_minute_end
    simp only [secondOfDay]
    omega
  have htl := hleap t
  have hul := hleap u
  have htd := hday t
  have hud := hday u
  simp only [second] at seconds
  omega

/-- A stamp tells the second, the leap second and the millisecond. -/
theorem eq_of_stamp {t u : Instant} (h : t.stamp = u.stamp) :
    t.seconds = u.seconds ∧ t.nanos / 1000000 = u.nanos / 1000000 := by
  have hl : t.stamp.toList = u.stamp.toList := congrArg String.toList h
  have hp := congrArg (Text.pieces '_') hl
  simp only [toList_stamp, Text.pieces_append_cons (underscore_notMem_dateText _),
    Text.pieces_append_cons (underscore_notMem_timeText _), List.cons.injEq] at hp
  obtain ⟨hdate, htime, hms⟩ := hp
  have hu : ∀ v : Instant, '_' ∉ Digits.padded 3 v.millisecond := fun v hv =>
    absurd (Digits.isDigit_of_mem_padded hv) (by decide)
  rw [Text.pieces_of_notMem (hu t), Text.pieces_of_notMem (hu u)] at hms
  have hmillis := Digits.padded_inj (List.cons.inj hms).1
  have hdays := Date.ofDays_inj (date_eq_of_dateText hdate)
  obtain ⟨hsec, hleap⟩ := second_eq_of_timeText htime
  simp only [secondOfDay] at hsec
  simp only [millisecond] at hmillis
  omega

/-- Equal stamps are those of the same millisecond. -/
theorem millis_eq_of_stamp {t u : Instant} (h : t.stamp = u.stamp) : t.millis = u.millis := by
  obtain ⟨hsec, hms⟩ := eq_of_stamp h
  rw [millis, millis, hsec, hms]

end Instant

end TelemetrySpool
