import Casebook.Time.Calendar
import Mathlib.Tactic.IntervalCases

/-!
# Days of the calendar

Which names name a day: those whose month is one of twelve and whose day is one that the month has, with
a leap day in the years that have one. The name is compared with its place in the years that start in
March: the year within four hundred and the day within that year, which has a day 365 only if a leap day
ends it.
-/

namespace Casebook.Date

def IsLeapYear (year : Int) : Prop :=
  year % 4 = 0 ∧ (year % 100 ≠ 0 ∨ year % 400 = 0)

instance (year : Int) : Decidable (IsLeapYear year) :=
  inferInstanceAs (Decidable (_ ∧ _))

def daysIn (year : Int) (month : Nat) : Nat :=
  if month = 2 then if IsLeapYear year then 29 else 28
  else if month = 4 ∨ month = 6 ∨ month = 9 ∨ month = 11 then 30
  else 31

def IsOfCalendar (d : Date) : Prop :=
  1 ≤ d.month ∧ d.month ≤ 12 ∧ 1 ≤ d.day ∧ d.day ≤ daysIn d.year d.month

instance (d : Date) : Decidable d.IsOfCalendar :=
  inferInstanceAs (Decidable (_ ∧ _))

/-- Whether `s` is a day of the year `y` of a cycle, counted from the first of March. -/
def InYear (y s : Int) : Prop :=
  0 ≤ y ∧ y < 400 ∧ 0 ≤ s ∧ (s ≤ 364 ∨ s = 365 ∧ IsLeapYear (y + 1))

/-! ### Years -/

theorem split_year {y : Int} (h : 0 ≤ y ∧ y < 400) : ∃ k q r : Int, y = 100 * k + 4 * q + r ∧
    (0 ≤ k ∧ k ≤ 3) ∧ (0 ≤ q ∧ q ≤ 24) ∧ (0 ≤ r ∧ r ≤ 3) :=
  ⟨y / 100, y % 100 / 4, y % 4, by omega, by omega, by omega, by omega⟩

/-- The leap day is the last of four years, but for the last four of a century that does not end the
cycle. -/
theorem isLeapYear_split {k q r : Int} (hk : 0 ≤ k ∧ k ≤ 3) (hq : 0 ≤ q ∧ q ≤ 24)
    (hr : 0 ≤ r ∧ r ≤ 3) :
    IsLeapYear (100 * k + 4 * q + r + 1) ↔ r = 3 ∧ (q ≤ 23 ∨ k = 3) := by
  have four : (100 * k + 4 * q + r + 1) % 4 = 0 ↔ r = 3 := by omega
  have century : (100 * k + 4 * q + r + 1) % 100 = 0 ↔ q = 24 ∧ r = 3 := by omega
  have whole : (100 * k + 4 * q + r + 1) % 400 = 0 ↔ k = 3 ∧ q = 24 ∧ r = 3 := by omega
  rw [IsLeapYear, four, whole, ne_eq, century]
  omega

/-- The year and the day that a count within the cycle comes to. -/
theorem inYear_yearOfDay {n : Int} (h : 0 ≤ n) (h' : n < 146097) :
    InYear (yearOfDay n) (n - daysOfYears (yearOfDay n)) := by
  obtain ⟨low, high⟩ := yearOfDay_bounds h h'
  obtain ⟨first, last⟩ := daysOfYears_yearOfDay h h'
  refine ⟨low, high, first, ?_⟩
  rcases Int.lt_or_eq_of_le last with before | leapDay
  · exact .inl (Int.le_of_lt_add_one before)
  refine .inr ⟨leapDay, ?_⟩
  revert leapDay
  simp only [yearOfDay]
  generalize hk : min 3 (n / 36524) = k
  generalize hq : (n - 36524 * k) / 1461 = q
  generalize hr : min 3 ((n - 36524 * k - 1461 * q) / 365) = r
  have years := @isLeapYear_split k q r (by omega) (by omega) (by omega)
  rw [daysOfYears_split (by omega) (by omega), years]
  omega

theorem yearOfDay_add {y s : Int} (h : InYear y s) : yearOfDay (daysOfYears y + s) = y := by
  obtain ⟨low, high, first, last⟩ := h
  obtain ⟨k, q, r, rfl, hk, hq, hr⟩ := split_year ⟨low, high⟩
  rw [isLeapYear_split hk hq hr] at last
  rw [daysOfYears_split hq hr, yearOfDay]
  have century : min 3 ((36524 * k + 1461 * q + 365 * r + s) / 36524) = k := by omega
  have span : (36524 * k + 1461 * q + 365 * r + s - 36524 * k) / 1461 = q := by omega
  have year : min 3 ((36524 * k + 1461 * q + 365 * r + s - 36524 * k - 1461 * q) / 365) = r := by
    omega
  simp only [century, span, year]

theorem within_cycle {y s : Int} (h : InYear y s) :
    0 ≤ daysOfYears y + s ∧ daysOfYears y + s < cycle := by
  obtain ⟨low, high, first, last⟩ := h
  simp only [daysOfYears, cycle]
  omega

theorem ofNumber_number_ofParts {c y s : Int} (h : InYear y s) :
    ofNumber (ofParts c y s).number = ofParts c y s := by
  obtain ⟨low, high⟩ := within_cycle h
  obtain ⟨hy, hy', hs, hs'⟩ := id h
  rw [number_ofParts ⟨hy, hy'⟩ ⟨hs, by omega⟩, ofNumber]
  have total : c * cycle + daysOfYears y + s - epochOffset + epochOffset =
      daysOfYears y + s + c * cycle := by omega
  have whole : (daysOfYears y + s + c * cycle) / cycle = c := by
    rw [Int.add_mul_ediv_right _ _ (by decide), Int.ediv_eq_zero_of_lt low high, Int.zero_add]
  have part : (daysOfYears y + s + c * cycle) % cycle = daysOfYears y + s := by
    rw [Int.add_mul_emod_self_right, Int.emod_eq_of_lt low high]
  have day : daysOfYears y + s - daysOfYears y = s := by omega
  simp only [total, whole, part, yearOfDay_add h, day]

/-! ### Months -/

theorem isLeapYear_add_cycle (c y : Int) : IsLeapYear (c * 400 + y) ↔ IsLeapYear y := by
  simp only [IsLeapYear]
  omega

theorem isOfCalendar_ofParts {c y s : Int} (h : InYear y s) : (ofParts c y s).IsOfCalendar := by
  obtain ⟨-, -, first, last⟩ := h
  have leap := isLeapYear_add_cycle c (y + 1)
  simp only [IsOfCalendar, ofParts, daysIn, daysOfMonths, Int.add_assoc]
  rcases last with last | ⟨last, inLeapYear⟩
  · have month : 0 ≤ (5 * s + 2) / 153 ∧ (5 * s + 2) / 153 ≤ 11 := by omega
    generalize hm : (5 * s + 2) / 153 = m at month ⊢
    repeat' split
    all_goals omega
  · subst last
    simp [leap, inLeapYear]

/-- The month, counted from March, in which a day falls that is counted from a month's first one. -/
theorem month_of_day {m i : Int} (hi : 0 ≤ i) (hi' : i < daysOfMonths (m + 1) - daysOfMonths m) :
    (5 * (daysOfMonths m + i) + 2) / 153 = m := by
  simp only [daysOfMonths] at *
  omega

/-- A month as counted from March. -/
def fromMarch (month : Nat) : Int :=
  if month ≤ 2 then month + 9 else month - 3

theorem daysIn_le (year : Int) (month : Nat) : daysIn year month ≤ 31 := by
  rw [daysIn]
  split
  · split <;> decide
  · split <;> decide

/-- A month is no longer than the days up to the next one, and the last one ends its year. -/
theorem daysIn_bounds (year : Int) {month : Nat} (first : 1 ≤ month) (last : month ≤ 12) :
    (daysIn year month : Int) ≤ daysOfMonths (fromMarch month + 1) - daysOfMonths (fromMarch month) ∧
      daysOfMonths (fromMarch month) + daysIn year month ≤
        365 + if month ≤ 2 ∧ IsLeapYear year then 1 else 0 := by
  by_cases leap : IsLeapYear year <;> interval_cases month <;>
    simp [daysIn, fromMarch, daysOfMonths, leap]

theorem ofParts_fromMarch {c y i : Int} {month : Nat} (first : 1 ≤ month) (last : month ≤ 12)
    (hi : 0 ≤ i) (hi' : i < daysOfMonths (fromMarch month + 1) - daysOfMonths (fromMarch month)) :
    ofParts c y (daysOfMonths (fromMarch month) + i) =
      ⟨c * 400 + y + if month ≤ 2 then 1 else 0, month, (i + 1).toNat⟩ := by
  have place := month_of_day hi hi'
  have early : 10 ≤ fromMarch month ↔ month ≤ 2 := by
    simp only [fromMarch]
    omega
  have day : daysOfMonths (fromMarch month) + i - daysOfMonths (fromMarch month) + 1 = i + 1 := by
    omega
  simp only [ofParts, place, early, day, mk.injEq, true_and, and_true]
  simp only [fromMarch]
  split <;> omega

/-- A day of the calendar by the year and the day of a cycle, counted from March. -/
theorem exists_ofParts {d : Date} (h : d.IsOfCalendar) : ∃ c y s, InYear y s ∧ d = ofParts c y s := by
  obtain ⟨year, month, day⟩ := d
  obtain ⟨hm, hm', hd, hd'⟩ := h
  simp only at hm hm' hd hd'
  obtain ⟨inMonth, inYear⟩ := daysIn_bounds year hm hm'
  have start : 0 ≤ daysOfMonths (fromMarch month) := by
    simp only [daysOfMonths, fromMarch]
    omega
  refine ⟨(year - if month ≤ 2 then 1 else 0) / 400, (year - if month ≤ 2 then 1 else 0) % 400,
    daysOfMonths (fromMarch month) + (day - 1), ⟨by omega, by omega, by omega, ?_⟩, ?_⟩
  · by_cases leap : month ≤ 2 ∧ IsLeapYear year
    · have next := isLeapYear_add_cycle ((year - 1) / 400) ((year - 1) % 400 + 1)
      have same : (year - 1) / 400 * 400 + ((year - 1) % 400 + 1) = year := by omega
      rw [same] at next
      rw [if_pos leap] at inYear
      rw [if_pos leap.1]
      by_cases short : daysOfMonths (fromMarch month) + ((day : Int) - 1) ≤ 364
      · exact .inl short
      · exact .inr ⟨by omega, next.1 leap.2⟩
    · rw [if_neg leap] at inYear
      exact .inl (by omega)
  · rw [ofParts_fromMarch hm hm' (by omega) (by omega)]
    simp only [mk.injEq, true_and]
    omega

/-- The valid names are those of the calendar. -/
theorem isValid_iff_isOfCalendar (d : Date) : d.isValid = true ↔ d.IsOfCalendar := by
  rw [isValid, decide_eq_true_eq]
  constructor
  · intro valid
    rw [← valid]
    exact isOfCalendar_ofParts (inYear_yearOfDay (Int.emod_nonneg _ (by decide))
      (Int.emod_lt_of_pos _ (by decide)))
  · intro named
    obtain ⟨c, y, s, day, rfl⟩ := exists_ofParts named
    exact ofNumber_number_ofParts day

end Casebook.Date
