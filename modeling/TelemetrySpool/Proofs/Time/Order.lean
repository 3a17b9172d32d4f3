import TelemetrySpool.Proofs.Time.Stamp

/-!
# The order of stamps

As long as years have four digits, a stamp is three numbers of fixed width between underscores: the
date, the time of day and the milliseconds. Numbers of one width are ordered as their texts, and the
calendar is ordered as the days, so stamps are ordered as the instants cut off at milliseconds.
-/

namespace TelemetrySpool

namespace Text

/-- Texts of one length are compared before what follows them. -/
theorem append_lt_append {a b : List Char} (hl : a.length = b.length) {c d : List Char}
    (h : a < b ∨ a = b ∧ c < d) : a ++ c < b ++ d := by
  rcases h with h | ⟨rfl, h⟩
  · induction a generalizing b with
    | nil =>
      obtain rfl := List.length_eq_zero_iff.1 hl.symm
      exact absurd h (List.not_lt_nil _)
    | cons x a ih =>
      cases b with
      | nil => cases hl
      | cons y b =>
        rw [List.cons_append, List.cons_append, List.cons_lt_cons_iff]
        rcases List.cons_lt_cons_iff.1 h with h | ⟨hx, h⟩
        · exact Or.inl h
        · exact Or.inr ⟨hx, ih (Nat.succ.inj hl) h⟩
  · exact List.append_left_lt h

end Text

namespace Digits

/-- Digits are ordered as their values. -/
theorem digitChar_lt {n m : Nat} (hm : m < 10) (h : n < m) : n.digitChar < m.digitChar := by
  have all : ∀ m < 10, ∀ n < m, n.digitChar < m.digitChar := by decide
  exact all m hm n h

/-- The last digit of a padded number stands after the padded rest. -/
theorem padded_succ {width : Nat} (hw : 0 < width) (n : Nat) :
    padded (width + 1) n = padded width (n / 10) ++ [(n % 10).digitChar] := by
  by_cases hn : n < 10
  · have hrest : padded width (n / 10) = List.replicate width '0' := by
      obtain ⟨w, rfl⟩ := Nat.exists_eq_succ_of_ne_zero (Nat.ne_of_gt hw)
      rw [Nat.div_eq_of_lt hn, padded, ofNat, Nat.toDigits_of_lt_base (by decide)]
      exact (List.replicate_succ' ..).symm
    rw [hrest, padded, ofNat, Nat.toDigits_of_lt_base hn, Nat.mod_eq_of_lt hn]
    rfl
  · have hdigits : ofNat n = ofNat (n / 10) ++ [(n % 10).digitChar] :=
      Nat.toDigits_of_base_le (by decide) (Nat.not_lt.1 hn)
    rw [padded, hdigits, List.length_append, List.length_singleton, Nat.add_sub_add_right, padded,
      List.append_assoc]

/-- Two padded numbers next to each other are one. -/
theorem padded_append {w v : Nat} (hw : 0 < w) (hv : 0 < v) (n : Nat) {m : Nat}
    (hm : m < Nat.pow 10 v) : padded w n ++ padded v m = padded (w + v) (n * Nat.pow 10 v + m) := by
  induction v generalizing m with
  | zero => cases hv
  | succ v ih =>
    rcases Nat.eq_zero_or_pos v with rfl | hpos
    · have hsmall : m < 10 := hm
      have hone : padded 1 m = [m.digitChar] := by
        rw [padded, ofNat, Nat.toDigits_of_lt_base hsmall]
        rfl
      have hpow : n * Nat.pow 10 (0 + 1) = n * 10 := rfl
      have hdiv : (n * Nat.pow 10 (0 + 1) + m) / 10 = n := by omega
      have hmod : (n * Nat.pow 10 (0 + 1) + m) % 10 = m := by omega
      rw [hone, padded_succ hw, hdiv, hmod]
    · have hrest : m / 10 < Nat.pow 10 v := by
        have hpow : Nat.pow 10 (v + 1) = Nat.pow 10 v * 10 := rfl
        omega
      have hpow : n * Nat.pow 10 (v + 1) = n * Nat.pow 10 v * 10 := (Nat.mul_assoc ..).symm
      have hdiv : (n * Nat.pow 10 (v + 1) + m) / 10 = n * Nat.pow 10 v + m / 10 := by omega
      have hmod : (n * Nat.pow 10 (v + 1) + m) % 10 = m % 10 := by omega
      rw [padded_succ hpos, ← List.append_assoc, ih hpos hrest, ← Nat.add_assoc,
        padded_succ (Nat.add_pos_left hw v), hdiv, hmod]

/-- Padded numbers are ordered as the numbers. -/
theorem padded_lt {width : Nat} (hw : 0 < width) {n m : Nat} (hm : m < Nat.pow 10 width)
    (h : n < m) : padded width n < padded width m := by
  induction width generalizing n m with
  | zero => cases hw
  | succ width ih =>
    rcases Nat.eq_zero_or_pos width with rfl | hpos
    · have hone : ∀ {k : Nat}, k < 10 → padded 1 k = [k.digitChar] := by
        intro k hk
        rw [padded, ofNat, Nat.toDigits_of_lt_base hk]
        rfl
      have hm' : m < 10 := hm
      rw [hone hm', hone (Nat.lt_trans h hm'), List.cons_lt_cons_iff]
      exact Or.inl (digitChar_lt hm' h)
    · have hpow : Nat.pow 10 (width + 1) = Nat.pow 10 width * 10 := rfl
      have hm' : m / 10 < Nat.pow 10 width := by omega
      have hn' : n / 10 < Nat.pow 10 width := by omega
      have hlength : (padded width (n / 10)).length = (padded width (m / 10)).length :=
        (length_padded_of_lt hpos hn').trans (length_padded_of_lt hpos hm').symm
      rw [padded_succ hpos, padded_succ hpos]
      apply Text.append_lt_append hlength
      by_cases hfirst : n / 10 < m / 10
      · exact Or.inl (ih hpos hm' hfirst)
      · have hsame : n / 10 = m / 10 := by omega
        have hlast : n % 10 < m % 10 := by omega
        rw [hsame, List.cons_lt_cons_iff]
        exact Or.inr ⟨rfl, Or.inl (digitChar_lt (Nat.mod_lt m (by decide)) hlast)⟩

end Digits

namespace Date

/-- The digits of a date as one number. -/
def number (date : Date) : Int := date.year * 10000 + date.month * 100 + date.day

/-- A later day of an era lies in a later year, or later in the same year. -/
theorem yearAndDay_lt {a b : Nat} (hb : b < daysPerEra) (h : a < b) :
    (yearAndDay a).1 < (yearAndDay b).1 ∨
      (yearAndDay a).1 = (yearAndDay b).1 ∧ (yearAndDay a).2 < (yearAndDay b).2 := by
  obtain ⟨hya, hda, ha⟩ := yearAndDay_spec (Nat.lt_trans h hb)
  obtain ⟨hyb, hdb, hb'⟩ := yearAndDay_spec hb
  -- Leap days grow with the years because centuries are counted in spans of four years.
  have hcenturies : ∀ year : Nat, year / 100 = year / 4 / 25 := fun year =>
    (Nat.div_div_eq_div_mul year 4 25).symm
  rw [hcenturies] at ha hb'
  omega

/-- A later day of a year lies in a later month, or later in the same month. -/
theorem monthAndDay_lt {a b : Nat} (hb : b ≤ 365) (h : a < b) :
    (monthAndDay a).1 < (monthAndDay b).1 ∨
      (monthAndDay a).1 = (monthAndDay b).1 ∧ (monthAndDay a).2 < (monthAndDay b).2 := by
  obtain ⟨hma, hda, ha⟩ := monthAndDay_spec (Nat.le_trans (Nat.le_of_lt h) hb)
  obtain ⟨hmb, hdb, hb'⟩ := monthAndDay_spec hb
  simp only [monthAndDay] at *
  omega

/-- Dates in years that begin in March are ordered by year, month and day. -/
theorem number_march_lt {year year' : Int} {month month' day day' : Nat} (hm : month ≤ 11)
    (hm' : month' ≤ 11) (hd : day ≤ 30) (hd' : day' ≤ 30)
    (h : year < year' ∨ year = year' ∧ (month < month' ∨ month = month' ∧ day < day')) :
    (if month < 10 then (⟨year, month + 3, day + 1⟩ : Date)
      else ⟨year + 1, month - 9, day + 1⟩).number <
    (if month' < 10 then (⟨year', month' + 3, day' + 1⟩ : Date)
      else ⟨year' + 1, month' - 9, day' + 1⟩).number := by
  split
  · split
    · simp only [number]
      omega
    · simp only [number]
      omega
  · split
    · simp only [number]
      omega
    · simp only [number]
      omega

/-- A later day has a later date. -/
theorem number_ofDays_lt {a b : Int} (h : a < b) : (ofDays a).number < (ofDays b).number := by
  let era (days : Int) : Int := (days + epochOffset) / (daysPerEra : Int)
  let dayOfEra (days : Int) : Nat := ((days + epochOffset) % (daysPerEra : Int)).toNat
  have lt_era : ∀ days, dayOfEra days < daysPerEra := by
    intro days
    simp only [dayOfEra, daysPerEra]
    omega
  obtain ⟨hya, hda, -⟩ := yearAndDay_spec (lt_era a)
  obtain ⟨hyb, hdb, -⟩ := yearAndDay_spec (lt_era b)
  obtain ⟨hma, hdma, -⟩ := monthAndDay_spec hda
  obtain ⟨hmb, hdmb, -⟩ := monthAndDay_spec hdb
  have hera : era a < era b ∨ era a = era b ∧ dayOfEra a < dayOfEra b := by
    simp only [era, dayOfEra, daysPerEra]
    omega
  have hyear :
      (yearAndDay (dayOfEra a)).1 + 400 * era a < (yearAndDay (dayOfEra b)).1 + 400 * era b ∨
      (yearAndDay (dayOfEra a)).1 + 400 * era a = (yearAndDay (dayOfEra b)).1 + 400 * era b ∧
        (yearAndDay (dayOfEra a)).2 < (yearAndDay (dayOfEra b)).2 := by
    rcases hera with hera | ⟨hera, hday⟩
    · exact Or.inl (by omega)
    · have hlt := yearAndDay_lt (lt_era b) hday
      omega
  apply number_march_lt hma hmb hdma hdmb
  rcases hyear with hlt | ⟨hsame, hday⟩
  · exact Or.inl hlt
  · exact Or.inr ⟨hsame, monthAndDay_lt hdb hday⟩

end Date

namespace Instant

/-- Where the millisecond of an instant stands among all: a second may have two thousand of them,
the second half for a leap second. -/
def rank (t : Instant) : Int := t.seconds * 2000 + (t.nanos / 1000000 : Nat)

/-- A year that is written with four digits. -/
def PlainYear (t : Instant) : Prop := 0 ≤ t.date.year ∧ t.date.year ≤ 9999

instance (t : Instant) : Decidable t.PlainYear := inferInstanceAs (Decidable (_ ∧ _))

/-- The digits of the time of day as one number. -/
def timeNumber (t : Instant) : Nat :=
  t.secondOfDay / 3600 * 10000 + t.secondOfDay / 60 % 60 * 100 + t.second

/-- Stamps are equal if the millisecond is the same. -/
theorem rank_eq_iff {t u : Instant} : t.rank = u.rank ↔ t.stamp = u.stamp := by
  have ht := t.nanos_lt
  have hu := u.nanos_lt
  constructor
  · intro h
    have hsec : t.seconds = u.seconds := by
      simp only [rank] at h
      omega
    have hms : t.nanos / 1000000 = u.nanos / 1000000 := by
      simp only [rank] at h
      omega
    have hleap : t.nanos / 1000000000 = u.nanos / 1000000000 := by omega
    simp only [stamp, date, secondOfDay, second, millisecond, hsec, hms, hleap]
  · intro h
    obtain ⟨hsec, hms⟩ := eq_of_stamp h
    rw [rank, rank, hsec, hms]

/-- The date part is one number of eight digits. -/
theorem dateText_eq {t : Instant} (h : t.PlainYear) :
    t.dateText = Digits.padded 8 t.date.number.toNat ∧ t.date.number.toNat < Nat.pow 10 8 := by
  obtain ⟨hlow, hhigh⟩ := h
  obtain ⟨hmonth, hday⟩ := Date.month_day_ofDays_le (t.seconds / 86400)
  have hm : t.date.month < Nat.pow 10 2 := Nat.lt_of_le_of_lt hmonth (by decide)
  have hd : t.date.day < Nat.pow 10 2 := Nat.lt_of_le_of_lt hday (by decide)
  have hnumber : t.date.number.toNat =
      (t.date.year.toNat * Nat.pow 10 2 + t.date.month) * Nat.pow 10 2 + t.date.day := by
    simp only [Date.number, show Nat.pow 10 2 = 100 from rfl]
    omega
  constructor
  · rw [dateText, yearText, if_pos ⟨hlow, hhigh⟩, Digits.padded_append (by decide) (by decide) _ hm,
      Digits.padded_append (by decide) (by decide) _ hd, hnumber]
  · simp only [hnumber, show Nat.pow 10 2 = 100 from rfl,
      show Nat.pow 10 8 = 100000000 from rfl] at *
    omega

/-- The time part is one number of six digits. -/
theorem timeText_eq (t : Instant) :
    t.timeText = Digits.padded 6 t.timeNumber ∧ t.timeNumber < Nat.pow 10 6 := by
  have hnanos := t.nanos_lt
  have hday : t.secondOfDay < 86400 := by
    simp only [secondOfDay]
    omega
  have hminute : t.secondOfDay / 60 % 60 < Nat.pow 10 2 :=
    Nat.lt_trans (Nat.mod_lt _ (by decide)) (by decide)
  have hsecond : t.second < Nat.pow 10 2 := by
    simp only [second, show Nat.pow 10 2 = 100 from rfl]
    omega
  have hnumber : t.timeNumber =
      (t.secondOfDay / 3600 * Nat.pow 10 2 + t.secondOfDay / 60 % 60) * Nat.pow 10 2 +
        t.second := by
    simp only [timeNumber, show Nat.pow 10 2 = 100 from rfl]
    omega
  constructor
  · rw [timeText, Digits.padded_append (by decide) (by decide) _ hminute,
      Digits.padded_append (by decide) (by decide) _ hsecond, hnumber]
  · simp only [hnumber, show Nat.pow 10 2 = 100 from rfl, show Nat.pow 10 6 = 1000000 from rfl] at *
    omega

/-- Stamps of years with four digits have one length. -/
theorem length_stamp {t : Instant} (h : t.PlainYear) : t.stamp.toList.length = 19 := by
  obtain ⟨hdate, hdate'⟩ := dateText_eq h
  obtain ⟨htime, htime'⟩ := timeText_eq t
  have hmillis : t.millisecond < Nat.pow 10 3 := Nat.mod_lt _ (by decide)
  rw [toList_stamp, hdate, htime, List.length_append, List.length_cons, List.length_append,
    List.length_cons, Digits.length_padded_of_lt (by decide) hdate',
    Digits.length_padded_of_lt (by decide) htime',
    Digits.length_padded_of_lt (by decide) hmillis]

/-- Within a day the time part grows with the second and the leap second. -/
theorem timeNumber_lt {t u : Instant} (h : t.secondOfDay < u.secondOfDay ∨
    t.secondOfDay = u.secondOfDay ∧ t.nanos / 1000000000 < u.nanos / 1000000000) :
    t.timeNumber < u.timeNumber := by
  have hnanos := t.nanos_lt
  -- Only the last second of a minute is followed by a leap second.
  have hleap : t.nanos / 1000000000 = 0 ∨
      t.nanos / 1000000000 = 1 ∧ t.secondOfDay % 60 = 59 := by
    have hend := t.leap_at_minute_end
    simp only [secondOfDay]
    omega
  have hhours : ∀ seconds : Nat, seconds / 3600 = seconds / 60 / 60 := fun seconds =>
    (Nat.div_div_eq_div_mul seconds 60 60).symm
  simp only [timeNumber, second, hhours]
  omega

/-- Within a day a later millisecond has a later text of its time and its milliseconds. -/
theorem timeText_millis_lt {t u : Instant} (hday : t.seconds / 86400 = u.seconds / 86400)
    (h : t.rank < u.rank) :
    t.timeText ++ '_' :: Digits.padded 3 t.millisecond <
      u.timeText ++ '_' :: Digits.padded 3 u.millisecond := by
  obtain ⟨htt, htt'⟩ := timeText_eq t
  obtain ⟨htu, htu'⟩ := timeText_eq u
  have hnt := t.nanos_lt
  have hnu := u.nanos_lt
  have hlength : (Digits.padded 6 t.timeNumber).length = (Digits.padded 6 u.timeNumber).length :=
    (Digits.length_padded_of_lt (by decide) htt').trans
      (Digits.length_padded_of_lt (by decide) htu').symm
  rw [htt, htu]
  apply Text.append_lt_append hlength
  by_cases htime : t.secondOfDay < u.secondOfDay ∨
      t.secondOfDay = u.secondOfDay ∧ t.nanos / 1000000000 < u.nanos / 1000000000
  · exact Or.inl (Digits.padded_lt (by decide) htu' (timeNumber_lt htime))
  · right
    have hsame : t.secondOfDay = u.secondOfDay ∧
        t.nanos / 1000000000 = u.nanos / 1000000000 ∧ t.millisecond < u.millisecond := by
      simp only [rank] at h
      simp only [secondOfDay, millisecond] at htime ⊢
      omega
    have hnumber : t.timeNumber = u.timeNumber := by
      simp only [timeNumber, second, hsame.1, hsame.2.1]
    rw [hnumber]
    refine ⟨rfl, List.cons_lt_cons_iff.2 (Or.inr ⟨rfl, ?_⟩)⟩
    exact Digits.padded_lt (by decide) (Nat.mod_lt _ (by decide)) hsame.2.2

/-- A later millisecond has a later stamp. -/
theorem stamp_lt_of_rank_lt {t u : Instant} (ht : t.PlainYear) (hu : u.PlainYear)
    (h : t.rank < u.rank) : t.stamp < u.stamp := by
  obtain ⟨hdt, hdt'⟩ := dateText_eq ht
  obtain ⟨hdu, hdu'⟩ := dateText_eq hu
  have hlength : t.dateText.length = u.dateText.length := by
    rw [hdt, hdu]
    exact (Digits.length_padded_of_lt (by decide) hdt').trans
      (Digits.length_padded_of_lt (by decide) hdu').symm
  rw [String.lt_iff, toList_stamp, toList_stamp]
  apply Text.append_lt_append hlength
  have hdays : t.seconds / 86400 < u.seconds / 86400 ∨ t.seconds / 86400 = u.seconds / 86400 := by
    have hnt := t.nanos_lt
    have hnu := u.nanos_lt
    simp only [rank] at h
    omega
  rcases hdays with hdays | hdays
  · left
    have hlt : t.date.number < u.date.number := Date.number_ofDays_lt hdays
    have hpos : 0 ≤ t.date.number := by
      have hyear := ht.1
      simp only [Date.number]
      omega
    rw [hdt, hdu]
    exact Digits.padded_lt (by decide) hdu' (by omega)
  · right
    have hdate : t.date = u.date := congrArg Date.ofDays hdays
    rw [dateText, dateText, hdate]
    exact ⟨rfl, List.cons_lt_cons_iff.2 (Or.inr ⟨rfl, timeText_millis_lt hdays h⟩)⟩

/-- Stamps are ordered as the milliseconds of their instants. -/
theorem stamp_lt_iff {t u : Instant} (ht : t.PlainYear) (hu : u.PlainYear) :
    t.stamp < u.stamp ↔ t.rank < u.rank := by
  refine ⟨fun h => ?_, stamp_lt_of_rank_lt ht hu⟩
  rcases Int.lt_trichotomy t.rank u.rank with hlt | heq | hgt
  · exact hlt
  · rw [rank_eq_iff.1 heq] at h
    exact absurd h (String.lt_irrefl _)
  · exact absurd (String.lt_trans h (stamp_lt_of_rank_lt hu ht hgt)) (String.lt_irrefl _)

/-- A millisecond later is later. -/
theorem rank_lt_addMillis (t : Instant) : t.rank < (t.addMillis 1).rank := by
  have hnanos := t.nanos_lt
  have hdiv : Int.tdiv 1 1000 = 0 := rfl
  have hmod : Int.tmod 1 1000 = 1 := rfl
  unfold addMillis
  rw [hdiv, hmod]
  split
  · simp only [rank, ofNanos]
    omega
  · next hleap =>
    split
    · next hends =>
      simp only [rank, ofNanos]
      omega
    · next hstays =>
      have hend : t.seconds % 60 = 59 := t.leap_at_minute_end (Nat.not_lt.1 hleap)
      have hnext : ((t.nanos : Int) + 1 * 1000000).toNat = t.nanos + 1000000 := by omega
      rw [if_neg (by decide), hnext, of?, dif_pos ⟨by omega, fun _ => hend⟩, Option.getD_some]
      simp only [rank]
      omega

end Instant

end TelemetrySpool
