/-!
# The calendar

Days are counted from 1970-01-01 and named by year, month and day in the Gregorian calendar, carried on
without end in both directions. Years are counted from March, so that a leap day is the last day of its
year. Main statement: every day is counted by its name.
-/

namespace Casebook

structure Date where
  year : Int
  month : Nat
  day : Nat
  deriving DecidableEq, Repr

namespace Date

/-- The days of the first `y` years of a cycle of four hundred. -/
def daysOfYears (y : Int) : Int :=
  365 * y + y / 4 - y / 100

/-- The days of the first `m` months of a year that starts in March. -/
def daysOfMonths (m : Int) : Int :=
  (153 * m + 2) / 5

/-- The days from the first of March of the year zero to 1970-01-01. -/
def epochOffset : Int := 719468

def cycle : Int := 146097

def number (d : Date) : Int :=
  let early := d.month ≤ 2
  let y := if early then d.year - 1 else d.year
  let m : Int := if early then d.month + 9 else d.month - 3
  y / 400 * cycle + daysOfYears (y % 400) + daysOfMonths m + (d.day - 1) - epochOffset

/-- The year of a cycle in which its `n`-th day falls: whole centuries, then whole spans of four years,
then whole years; the last of each four may be a day longer. -/
def yearOfDay (n : Int) : Int :=
  let century := min 3 (n / 36524)
  let inCentury := n - 36524 * century
  let span := inCentury / 1461
  let inSpan := inCentury - 1461 * span
  100 * century + 4 * span + min 3 (inSpan / 365)

def ofParts (c y s : Int) : Date :=
  let m := (5 * s + 2) / 153
  let early := 10 ≤ m
  { year := c * 400 + y + if early then 1 else 0
    month := (if early then m - 9 else m + 3).toNat
    day := (s - daysOfMonths m + 1).toNat }

def ofNumber (n : Int) : Date :=
  let z := n + epochOffset
  let inCycle := z % cycle
  let y := yearOfDay inCycle
  ofParts (z / cycle) y (inCycle - daysOfYears y)

/-- Whether a name names a day: it is then the name of the day that it counts to. -/
def isValid (d : Date) : Bool :=
  ofNumber d.number = d

theorem yearOfDay_bounds {n : Int} (h : 0 ≤ n) (h' : n < 146097) :
    0 ≤ yearOfDay n ∧ yearOfDay n < 400 := by
  simp only [yearOfDay]
  omega

theorem daysOfYears_split {k q y : Int} (hq : 0 ≤ q ∧ q ≤ 24) (hy : 0 ≤ y ∧ y ≤ 3) :
    daysOfYears (100 * k + 4 * q + y) = 36524 * k + 1461 * q + 365 * y := by
  have h4 : (100 * k + 4 * q + y) / 4 = 25 * k + q := by omega
  have h100 : (100 * k + 4 * q + y) / 100 = k := by omega
  rw [daysOfYears, h4, h100]
  omega

theorem daysOfYears_yearOfDay {n : Int} (h : 0 ≤ n) (h' : n < 146097) :
    0 ≤ n - daysOfYears (yearOfDay n) ∧ n - daysOfYears (yearOfDay n) ≤ 365 := by
  simp only [yearOfDay]
  rw [daysOfYears_split (by omega) (by omega)]
  omega

theorem number_ofParts {c y s : Int} (hy : 0 ≤ y ∧ y < 400) (hs : 0 ≤ s ∧ s ≤ 365) :
    (ofParts c y s).number = c * cycle + daysOfYears y + s - epochOffset := by
  simp only [ofParts, number]
  by_cases hm : 10 ≤ (5 * s + 2) / 153
  · have h1 : ((5 * s + 2) / 153 - 9).toNat ≤ 2 := by omega
    simp only [hm, if_true, h1]
    have h2 : (c * 400 + y + 1 - 1) / 400 = c := by omega
    have h3 : (c * 400 + y + 1 - 1) % 400 = y := by omega
    rw [h2, h3]
    simp only [daysOfMonths]
    omega
  · have h1 : ¬ ((5 * s + 2) / 153 + 3).toNat ≤ 2 := by omega
    simp only [hm, if_false, h1]
    have h2 : (c * 400 + y + 0) / 400 = c := by omega
    have h3 : (c * 400 + y + 0) % 400 = y := by omega
    rw [h2, h3]
    simp only [daysOfMonths]
    omega

theorem number_ofNumber (n : Int) : (ofNumber n).number = n := by
  have hr : 0 ≤ (n + epochOffset) % cycle := Int.emod_nonneg _ (by decide)
  have hr' : (n + epochOffset) % cycle < 146097 := Int.emod_lt_of_pos _ (by decide)
  have h := number_ofParts (c := (n + epochOffset) / cycle) (yearOfDay_bounds hr hr')
    (daysOfYears_yearOfDay hr hr')
  have hdiv := Int.emod_add_mul_ediv (n + epochOffset) cycle
  refine h.trans ?_
  rw [Int.mul_comm] at hdiv
  omega

theorem isValid_ofNumber (n : Int) : (ofNumber n).isValid = true := by
  simp [isValid, number_ofNumber]

end Date
end Casebook
