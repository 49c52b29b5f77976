import Mathlib.Order.Monotone.Basic
import TaskSieve.Calendar.Stamp

set_option autoImplicit false

/-! # Day numbers and dates

The date of a day number has that day number, and it exists if the day lies in the years 1 to 9999.
The year is found by the lengths of its cycles, the month by the days before it. No other date that
exists has the same day number. -/

namespace TaskSieve.Calendar

/-! ## Months -/

theorem daysBeforeMonth_succ (year : Nat) {month : Nat} (h : 1 ≤ month) :
    daysBeforeMonth year (month + 1) = daysBeforeMonth year month + daysInMonth year month := by
  obtain ⟨m, rfl⟩ : ∃ m, month = m + 1 := ⟨month - 1, by omega⟩
  simp [daysBeforeMonth, List.range_succ]

/-- The days of a year before its last month. -/
theorem daysBeforeMonth_twelve (year : Nat) :
    daysBeforeMonth year 12 = if isLeap year then 335 else 334 := by
  cases hleap : isLeap year <;> simp [daysBeforeMonth, daysInMonth, List.range_succ, hleap]

namespace CivilDate

/-- A month is found behind the days of the months before it. -/
theorem monthOf_spec (year : Nat) {first count day month rest : Nat} (hfirst : 1 ≤ first)
    (hlast : first + count = 12) (h : monthOf year (List.range' first count) day = (month, rest)) :
    daysBeforeMonth year month + rest = daysBeforeMonth year first + day ∧
      (rest < daysInMonth year month ∨ month = 12) := by
  induction count generalizing first day with
  | zero =>
    obtain ⟨rfl, rfl⟩ := Prod.mk.inj h
    obtain rfl : first = 12 := hlast
    exact ⟨rfl, .inr rfl⟩
  | succ count ih =>
    rw [List.range'_succ, monthOf] at h
    split at h
    · next hday =>
      obtain ⟨rfl, rfl⟩ := Prod.mk.inj h
      exact ⟨rfl, .inl hday⟩
    · obtain ⟨hsum, hrest⟩ := ih (by omega) (by omega) h
      rw [daysBeforeMonth_succ year hfirst] at hsum
      exact ⟨by omega, hrest⟩

/-! ## Years -/

/-- The cycles of a day number: whole cycles of 400, 100 and 4 years, whole years, and the days that
are left. -/
structure Cycles where
  c400 : Nat
  c100 : Nat
  c4 : Nat
  c1 : Nat
  days : Nat

/-- The cycles that a date is found by. -/
def cyclesOf (n : Nat) : Cycles :=
  let r400 := n % 146097
  let c100 := min 3 (r400 / 36524)
  let r100 := r400 - c100 * 36524
  let r4 := r100 % 1461
  let c1 := min 3 (r4 / 365)
  ⟨n / 146097, c100, r100 / 1461, c1, r4 - c1 * 365⟩

namespace Cycles

/-- The year in which the cycles end. -/
def year (c : Cycles) : Nat := 400 * c.c400 + 100 * c.c100 + 4 * c.c4 + c.c1 + 1

/-- Shorter cycles do not fill a longer one, and the days do not fill the year. -/
structure Fitting (c : Cycles) : Prop where
  c100 : c.c100 ≤ 3
  c4 : c.c4 ≤ 24
  c1 : c.c1 ≤ 3
  days : c.days < if isLeap c.year then 366 else 365

theorem daysBeforeYear_year {c : Cycles} (h : c.Fitting) :
    daysBeforeYear c.year = 146097 * c.c400 + 36524 * c.c100 + 1461 * c.c4 + 365 * c.c1 := by
  obtain ⟨h100, h4, h1, -⟩ := h
  simp only [daysBeforeYear, year, Nat.add_sub_cancel]
  omega

end Cycles

theorem isLeap_iff (year : Nat) :
    isLeap year = true ↔ year % 4 = 0 ∧ (year % 100 ≠ 0 ∨ year % 400 = 0) := by
  simp [isLeap]

theorem fitting_cyclesOf (n : Nat) : (cyclesOf n).Fitting where
  c100 := Nat.min_le_left _ _
  c4 := by
    simp only [cyclesOf]
    omega
  c1 := Nat.min_le_left _ _
  days := by
    split
    · simp only [cyclesOf]
      omega
    · next hleap =>
      -- only the last year of a cycle of four could have another day, and it is a leap year
      rw [isLeap_iff] at hleap
      simp only [Cycles.year, cyclesOf] at hleap ⊢
      omega

theorem sum_cyclesOf (n : Nat) :
    daysBeforeYear (cyclesOf n).year + (cyclesOf n).days = n := by
  rw [Cycles.daysBeforeYear_year (fitting_cyclesOf n)]
  simp only [cyclesOf]
  omega

/-! ## Dates -/

/-- The month of a day, and its day within the month, that its cycles leave. -/
def monthOfCycles (c : Cycles) : Nat × Nat := monthOf c.year (List.range' 1 11) c.days

theorem ofDayNumber_eq (n : Nat) :
    ofDayNumber n = ⟨(cyclesOf n).year, (monthOfCycles (cyclesOf n)).1,
      (monthOfCycles (cyclesOf n)).2 + 1⟩ := rfl

/-- The date of a day number is read off its cycles. -/
theorem exists_ofDayNumber (n : Nat) : ∃ month day,
    ofDayNumber n = ⟨(cyclesOf n).year, month, day + 1⟩ ∧
      daysBeforeMonth (cyclesOf n).year month + day = (cyclesOf n).days ∧
      day < daysInMonth (cyclesOf n).year month := by
  have hdate := ofDayNumber_eq n
  obtain ⟨month, day, hmonth⟩ : ∃ month day, monthOfCycles (cyclesOf n) = (month, day) :=
    ⟨_, _, rfl⟩
  rw [hmonth] at hdate
  obtain ⟨hsum, hday⟩ := monthOf_spec _ (Nat.le_refl 1) rfl hmonth
  have hfirst : daysBeforeMonth (cyclesOf n).year 1 = 0 := rfl
  refine ⟨month, day, hdate, by omega, ?_⟩
  rcases hday with hday | rfl
  · exact hday
  · -- the last month ends with the year
    have hdays := (fitting_cyclesOf n).days
    have hbefore := daysBeforeMonth_twelve (cyclesOf n).year
    have hlength : daysInMonth (cyclesOf n).year 12 = 31 := rfl
    split at hbefore
    · next hleap =>
      rw [if_pos hleap] at hdays
      omega
    · next hleap =>
      rw [if_neg hleap] at hdays
      omega

/-- The date of a day number has that day number. -/
theorem dayNumber_ofDayNumber (n : Nat) : (ofDayNumber n).dayNumber = n := by
  obtain ⟨month, day, hdate, hmonth, -⟩ := exists_ofDayNumber n
  have hsum := sum_cyclesOf n
  rw [hdate, dayNumber]
  dsimp only
  omega

theorem year_le_lastYear {n : Nat} (h : n < dayCount) : (cyclesOf n).year ≤ lastYear := by
  have hsum := sum_cyclesOf n
  have hfit := fitting_cyclesOf n
  rw [Cycles.daysBeforeYear_year hfit] at hsum
  obtain ⟨h100, h4, h1, -⟩ := hfit
  simp only [Cycles.year, lastYear, dayCount] at *
  omega

/-- A day in the years 1 to 9999 has a date that exists. -/
theorem isValid_ofDayNumber {n : Nat} (h : n < dayCount) : (ofDayNumber n).isValid = true := by
  obtain ⟨month, day, hdate, -, hday⟩ := exists_ofDayNumber n
  have hyear := year_le_lastYear h
  have hfirst : 1 ≤ (cyclesOf n).year := Nat.le_add_left _ _
  simp only [hdate, isValid, Bool.and_eq_true, decide_eq_true_eq]
  exact ⟨⟨⟨hfirst, hyear⟩, Nat.le_add_left _ _⟩, hday⟩

/-! ## One date for a day

Years and months follow one another without a gap, so a day lies in one of them only. -/

/-- A number lies between two neighbours of a rising sequence in one place only. -/
theorem eq_of_between {f : Nat → Nat} (hf : Monotone f) {a b n : Nat} (ha : f a ≤ n)
    (ha' : n < f (a + 1)) (hb : f b ≤ n) (hb' : n < f (b + 1)) : a = b := by
  have hab : a < b + 1 := hf.reflect_lt (Nat.lt_of_le_of_lt ha hb')
  have hba : b < a + 1 := hf.reflect_lt (Nat.lt_of_le_of_lt hb ha')
  omega

theorem monotone_daysBeforeYear : Monotone daysBeforeYear := by
  refine monotone_nat_of_le_succ fun year => ?_
  simp only [daysBeforeYear]
  omega

theorem monotone_daysBeforeMonth (year : Nat) : Monotone (daysBeforeMonth year) := by
  refine monotone_nat_of_le_succ fun month => ?_
  rcases Nat.eq_zero_or_pos month with rfl | hmonth
  · exact Nat.le_refl _
  · rw [daysBeforeMonth_succ year hmonth]
    exact Nat.le_add_right _ _

/-- The months of a year fill it. -/
theorem daysBeforeYear_succ {year : Nat} (h : 1 ≤ year) :
    daysBeforeYear (year + 1) = daysBeforeYear year + daysBeforeMonth year 13 := by
  have hlast : daysBeforeMonth year 13 = daysBeforeMonth year 12 + 31 :=
    daysBeforeMonth_succ year (by decide)
  rw [hlast, daysBeforeMonth_twelve]
  obtain ⟨past, rfl⟩ : ∃ past, year = past + 1 := ⟨year - 1, by omega⟩
  have hleap := isLeap_iff (past + 1)
  simp only [← Nat.dvd_iff_mod_eq_zero, ne_eq] at hleap
  have hcentury : 400 ∣ past + 1 → 100 ∣ past + 1 := Nat.dvd_trans (by decide)
  have hfour : 100 ∣ past + 1 → 4 ∣ past + 1 := Nat.dvd_trans (by decide)
  have hless : past / 100 ≤ past / 4 := Nat.div_le_div_left (by decide) (by decide)
  simp only [daysBeforeYear, Nat.add_sub_cancel, Nat.succ_div]
  -- a year that ends no cycle of four years ends no longer cycle
  by_cases h4 : 4 ∣ past + 1
  · by_cases h100 : 100 ∣ past + 1
    · by_cases h400 : 400 ∣ past + 1
      · rw [if_pos h4, if_pos h100, if_pos h400, if_pos (hleap.2 ⟨h4, .inr h400⟩)]
        omega
      · rw [if_pos h4, if_pos h100, if_neg h400, if_neg (by simp [hleap, h100, h400])]
        omega
    · rw [if_pos h4, if_neg h100, if_neg (mt hcentury h100), if_pos (hleap.2 ⟨h4, .inl h100⟩)]
      omega
  · have h100 := mt hfour h4
    rw [if_neg h4, if_neg h100, if_neg (mt hcentury h100), if_neg (by simp [hleap, h4])]
    omega

/-- What a date that exists keeps to. -/
theorem isValid_iff {d : CivilDate} : d.isValid = true ↔
    1 ≤ d.year ∧ d.year ≤ lastYear ∧ 1 ≤ d.day ∧ d.day ≤ daysInMonth d.year d.month := by
  simp [isValid, and_assoc]

/-- A month with a day is one of the twelve, and no month has more than 31 days. -/
theorem daysInMonth_bounds {year month day : Nat} (hfirst : 1 ≤ day)
    (hday : day ≤ daysInMonth year month) : 1 ≤ month ∧ month ≤ 12 ∧ day ≤ 31 := by
  have hfebruary : (if isLeap year then 29 else 28) ≤ 31 := by split <;> omega
  unfold daysInMonth at hday
  split at hday <;> omega

/-- A date that exists lies in its month, and this in its year. -/
theorem between_of_isValid {d : CivilDate} (h : d.isValid = true) :
    daysBeforeMonth d.year d.month + (d.day - 1) < daysBeforeMonth d.year (d.month + 1) ∧
      d.dayNumber < daysBeforeYear (d.year + 1) := by
  obtain ⟨hyear, -, hfirst, hlast⟩ := isValid_iff.1 h
  obtain ⟨hmonth, hmonths, -⟩ := daysInMonth_bounds hfirst hlast
  have hnext := daysBeforeMonth_succ d.year hmonth
  have hend : daysBeforeMonth d.year (d.month + 1) ≤ daysBeforeMonth d.year 13 :=
    monotone_daysBeforeMonth d.year (Nat.succ_le_succ hmonths)
  have hdays := daysBeforeYear_succ hyear
  rw [dayNumber]
  omega

theorem daysBeforeYear_le_dayNumber (d : CivilDate) : daysBeforeYear d.year ≤ d.dayNumber := by
  rw [dayNumber, Nat.add_assoc]
  exact Nat.le_add_right _ _

/-- Two dates that exist are one if they have one day number. -/
theorem eq_of_dayNumber_eq {d e : CivilDate} (hd : d.isValid = true) (he : e.isValid = true)
    (h : d.dayNumber = e.dayNumber) : d = e := by
  obtain ⟨hdmonth, hdyear⟩ := between_of_isValid hd
  obtain ⟨hemonth, heyear⟩ := between_of_isValid he
  obtain ⟨-, -, hdday, -⟩ := isValid_iff.1 hd
  obtain ⟨-, -, heday, -⟩ := isValid_iff.1 he
  have hle := daysBeforeYear_le_dayNumber e
  rw [← h] at hle heyear
  have hyear : d.year = e.year :=
    eq_of_between monotone_daysBeforeYear (daysBeforeYear_le_dayNumber d) hdyear hle heyear
  obtain ⟨year, month, day⟩ := d
  obtain ⟨year', month', day'⟩ := e
  dsimp only at hyear hdmonth hemonth hdday heday
  subst hyear
  simp only [dayNumber] at h
  obtain rfl : month = month' :=
    eq_of_between (monotone_daysBeforeMonth year)
      (n := daysBeforeMonth year month + (day - 1)) (by omega) hdmonth (by omega) (by omega)
  obtain rfl : day = day' := by omega
  rfl

/-- A date that exists lies in the years 1 to 9999. -/
theorem dayNumber_lt_dayCount {d : CivilDate} (h : d.isValid = true) : d.dayNumber < dayCount := by
  obtain ⟨-, hyear, -⟩ := isValid_iff.1 h
  have hend : daysBeforeYear (d.year + 1) ≤ daysBeforeYear (lastYear + 1) :=
    monotone_daysBeforeYear (Nat.succ_le_succ hyear)
  have hcount : daysBeforeYear (lastYear + 1) = dayCount := by decide
  have hlt := (between_of_isValid h).2
  omega

/-- A date that exists is the date of its day number. -/
theorem ofDayNumber_dayNumber {d : CivilDate} (h : d.isValid = true) :
    ofDayNumber d.dayNumber = d :=
  eq_of_dayNumber_eq (isValid_ofDayNumber (dayNumber_lt_dayCount h)) h (dayNumber_ofDayNumber _)

end CivilDate

end TaskSieve.Calendar
